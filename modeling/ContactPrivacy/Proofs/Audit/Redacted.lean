/-
What a log tells but for digests.  Two actions log the same when their events
are the same once the digests in them are blank; whether there is a digest still
counts.  Recorders with sinks of one kind log the same of a value and of what it
is renamed to.
-/
import ContactPrivacy.Audit.Recorder
import Mathlib.Data.List.Forall2

namespace ContactPrivacy

open Audit (Record Recorder Sink Store)

/-- A renaming of texts: no two get one name, and the empty text keeps its own. -/
structure Renaming (rename : String → String) : Prop where
  injective : Function.Injective rename
  empty : rename "" = ""

namespace Renaming

variable {rename : String → String} (hrename : Renaming rename)

include hrename

theorem eq_empty_iff (text : String) : rename text = "" ↔ text = "" := by
  have hiff : rename text = rename "" ↔ text = "" := hrename.injective.eq_iff
  rwa [hrename.empty] at hiff

/-- A value is there to be shown before it is renamed exactly if it is after. -/
theorem filter_map (value : Option String) :
    (value.map rename).filter (· ≠ "") = (value.filter (· ≠ "")).map rename := by
  cases value with
  | none => rfl
  | some text => simp [Option.filter, hrename.eq_empty_iff, apply_ite (Option.map rename)]

end Renaming

def Audit.Record.redacted (record : Record) : Record :=
  { record with valueDigest := record.valueDigest.map fun _ => "" }

def Event.redacted : Event → Event
  | .recordEmitted record => .recordEmitted record.redacted
  | .sinkFailed record reason => .sinkFailed record.redacted reason
  | .recordWritten record => .recordWritten record.redacted
  | .fieldSanitized field _ => .fieldSanitized field ""
  | event => event

/-- Two answers that are related, with logs that differ in digests alone. -/
structure Logged.SameLog {α β : Type} (related : α → β → Prop) (first : Logged α)
    (second : Logged β) : Prop where
  answer : related first.answer second.answer
  events : first.events.map Event.redacted = second.events.map Event.redacted

namespace Logged.SameLog

variable {α β γ δ : Type} {related : α → β → Prop} {result : γ → δ → Prop}

theorem pure {first : α} {second : β} (hrelated : related first second) :
    SameLog related (Pure.pure first) (Pure.pure second) :=
  ⟨hrelated, rfl⟩

/-- What is done next may rely on how the answers so far are related. -/
theorem bind {first : Logged α} {second : Logged β} {firstNext : α → Logged γ}
    {secondNext : β → Logged δ} (hsame : SameLog related first second)
    (hnext : ∀ {firstAnswer secondAnswer}, related firstAnswer secondAnswer →
      SameLog result (firstNext firstAnswer) (secondNext secondAnswer)) :
    SameLog result (first >>= firstNext) (second >>= secondNext) := by
  refine ⟨(hnext hsame.answer).answer, ?_⟩
  rw [events_bind, events_bind, List.map_append, List.map_append, hsame.events,
    (hnext hsame.answer).events]

/-- One action that comes first for both. -/
theorem bind_same (first : Logged α) {firstNext : α → Logged γ} {secondNext : α → Logged δ}
    (hnext : SameLog result (firstNext first.answer) (secondNext first.answer)) :
    SameLog result (first >>= firstNext) (first >>= secondNext) := by
  have hsame : SameLog (fun x y => x = first.answer ∧ y = first.answer) first first :=
    ⟨⟨rfl, rfl⟩, rfl⟩
  refine hsame.bind ?_
  rintro _ _ ⟨rfl, rfl⟩
  exact hnext

theorem ite {condition : Prop} [Decidable condition] {firstThen firstElse : Logged α}
    {secondThen secondElse : Logged β} (hthen : SameLog related firstThen secondThen)
    (helse : SameLog related firstElse secondElse) :
    SameLog related (if condition then firstThen else firstElse)
      (if condition then secondThen else secondElse) := by
  split
  · exact hthen
  · exact helse

end Logged.SameLog

namespace Audit

/-- Sinks of one kind, whatever they hold; broken ones are broken for one reason. -/
inductive Sink.SameKind : Sink → Sink → Prop
  | memory (first second : Store) : SameKind (.memory first) (.memory second)
  | log : SameKind .log .log
  | broken (reason : String) : SameKind (.broken reason) (.broken reason)

theorem Sink.sameKind_refl (sink : Sink) : sink.SameKind sink := by
  cases sink with
  | memory store => exact .memory store store
  | log => exact .log
  | broken reason => exact .broken reason

/-- The digests of a value and of what it is renamed to are there together. -/
theorem blank_digestOf {rename : String → String} (hrename : Renaming rename)
    (salt other : String) (value : Option String) :
    (digestOf salt value).map (fun _ => "") =
      (digestOf other (value.map rename)).map fun _ => "" := by
  rw [digestOf, digestOf, hrename.filter_map]
  cases value.filter (· ≠ "") <;> rfl

namespace Recorder

/-- Recorders that go on with sinks of one kind. -/
def SameSink (first second : Option Record × Recorder) : Prop :=
  first.2.sink.SameKind second.2.sink

variable {first second : Recorder} (hsink : first.sink.SameKind second.sink)

include hsink

/-- Records that differ in their digests leave the same log. -/
theorem sameLog_emit {record other : Record} (hrecord : record.redacted = other.redacted) :
    Logged.SameLog SameSink (first.emit record) (second.emit other) := by
  obtain ⟨firstSink, firstSalt⟩ := first
  obtain ⟨secondSink, secondSalt⟩ := second
  cases hsink with
  | memory store kept => exact ⟨.memory _ _, by simp [emit, Sink.accept, Event.redacted, hrecord]⟩
  | log => exact ⟨.log, by simp [emit, Sink.accept, Event.redacted, hrecord]⟩
  | broken reason => exact ⟨.broken reason, by simp [emit, Sink.accept, Event.redacted, hrecord]⟩

theorem sameLog_emitFor (user : Given User) (account : Option AccountCard) (kind : Kind)
    {complete other : Record → Record}
    (hcomplete : ∀ record, (complete record).redacted = (other record).redacted) :
    Logged.SameLog SameSink (first.emitFor user account kind complete)
      (second.emitFor user account kind other) :=
  .bind_same _ (.bind_same _ (sameLog_emit hsink (hcomplete _)))

/-- An access to a value leaves the same log as one to what it is renamed to. -/
theorem sameLog_recordMembers {rename : String → String} (hrename : Renaming rename)
    (user : Given User) (account : Option AccountCard) (event : EventRef) (field : Field)
    (context : Members) (value : Option String) :
    Logged.SameLog SameSink (first.recordMembers user account event field context value)
      (second.recordMembers user account event field context (value.map rename)) := by
  unfold recordMembers
  split
  · refine sameLog_emitFor hsink user account _ fun record => ?_
    rw [Record.redacted, Record.redacted, blank_digestOf hrename first.salt second.salt]
  · exact ⟨hsink, rfl⟩

end Recorder

end Audit

end ContactPrivacy
