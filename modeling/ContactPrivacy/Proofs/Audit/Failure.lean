/-
What a sink that fails costs.  Beside a recorder that keeps its records in
memory stands one whose sink fails on every record: it gives no record back and
stays as it is, and nothing else is different.  The log of the one tells what
the log of the other tells, each record as lost that the other has as emitted.
-/
import ContactPrivacy.Proofs.Settings.Trail
import Mathlib.Data.List.Forall2

namespace ContactPrivacy

open Audit (Record Recorder)

variable {α β γ δ : Type} {reason : String}

/-- An event that is logged while memory takes every record, and the one that
is logged in its place where the sink fails for a reason.  Only what is told of
records is different. -/
inductive Event.Counterpart (reason : String) : Event → Event → Prop
  | same (event : Event) (hsilent : event.handed? = none) : Counterpart reason event event
  | lost (record : Record) :
      Counterpart reason (.recordEmitted record) (.sinkFailed record reason)
  | unrecorded (changed enabled : Bool) :
      Counterpart reason (.settingsUpdated changed enabled) (.settingsUpdated false enabled)

theorem Event.Counterpart.handed?_eq {kept failing : Event}
    (hevent : Counterpart reason kept failing) : failing.handed? = kept.handed? := by
  cases hevent <;> rfl

/-- A log that tells of no record stays as it is. -/
theorem Event.forall₂_counterpart_self {events : List Event}
    (hsilent : handedRecords events = []) :
    List.Forall₂ (Counterpart reason) events events :=
  List.forall₂_same.mpr fun event hevent =>
    .same event (List.filterMap_eq_nil_iff.mp hsilent event hevent)

/-- A failing sink is handed every record that memory is handed. -/
theorem handedRecords_eq_of_counterparts {kept failing : List Event}
    (hevents : List.Forall₂ (Event.Counterpart reason) kept failing) :
    handedRecords failing = handedRecords kept := by
  induction hevents with
  | nil => rfl
  | cons hevent _ ih =>
      simp only [handedRecords, List.filterMap_cons, hevent.handed?_eq] at ih ⊢
      rw [ih]

namespace Logged

/-- Two answers that are related, with logs that tell the same except for
what the sink failed to take. -/
structure Counterpart (reason : String) (related : α → β → Prop) (kept : Logged α)
    (failing : Logged β) : Prop where
  answer : related kept.answer failing.answer
  events : List.Forall₂ (Event.Counterpart reason) kept.events failing.events

namespace Counterpart

variable {related : α → β → Prop} {result : γ → δ → Prop}

theorem pure {kept : α} {failing : β} (hrelated : related kept failing) :
    Counterpart reason related (Pure.pure kept) (Pure.pure failing) :=
  ⟨hrelated, .nil⟩

/-- What is done next may rely on how the answers so far are related. -/
theorem bind {kept : Logged α} {failing : Logged β} {keptNext : α → Logged γ}
    {failingNext : β → Logged δ} (hfirst : Counterpart reason related kept failing)
    (hnext : ∀ {keptAnswer failingAnswer}, related keptAnswer failingAnswer →
      Counterpart reason result (keptNext keptAnswer) (failingNext failingAnswer)) :
    Counterpart reason result (kept >>= keptNext) (failing >>= failingNext) :=
  ⟨(hnext hfirst.answer).answer, List.rel_append hfirst.events (hnext hfirst.answer).events⟩

/-- What hands over no record comes first for both alike. -/
theorem bind_silent (first : Logged α) (hsilent : handedRecords first.events = [])
    {keptNext : α → Logged γ} {failingNext : α → Logged δ}
    (hnext : Counterpart reason result (keptNext first.answer) (failingNext first.answer)) :
    Counterpart reason result (first >>= keptNext) (first >>= failingNext) :=
  ⟨hnext.answer, List.rel_append (Event.forall₂_counterpart_self hsilent) hnext.events⟩

theorem ite {condition : Prop} [Decidable condition] {keptThen keptElse : Logged α}
    {failingThen failingElse : Logged β}
    (hthen : Counterpart reason related keptThen failingThen)
    (helse : Counterpart reason related keptElse failingElse) :
    Counterpart reason related (if condition then keptThen else keptElse)
      (if condition then failingThen else failingElse) := by
  split
  · exact hthen
  · exact helse

end Counterpart

end Logged

namespace Audit.Recorder

/-- A recorder that keeps its records in memory, and the same recorder with a
sink that fails. -/
structure Counterpart (reason : String) (kept failing : Recorder) : Prop where
  keeps : ∃ store, kept.sink = .memory store
  fails : failing = { kept with sink := .broken reason }

/-- The failing recorder gives no record back. -/
structure Gives (reason : String) (kept failing : Option Record × Recorder) : Prop where
  nothing : failing.1 = none
  recorder : Counterpart reason kept.2 failing.2

variable {kept failing : Recorder} (hrecorder : Counterpart reason kept failing)

include hrecorder

theorem Counterpart.gives_nothing : Gives reason (none, kept) (none, failing) :=
  ⟨rfl, hrecorder⟩

theorem Counterpart.emit (record : Record) :
    Logged.Counterpart reason (Gives reason) (kept.emit record) (failing.emit record) := by
  obtain ⟨⟨store, hstore⟩, rfl⟩ := hrecorder
  obtain ⟨sink, salt⟩ := kept
  obtain rfl : sink = .memory store := hstore
  exact ⟨⟨rfl, ⟨_, rfl⟩, rfl⟩, .cons (.lost record) .nil⟩

theorem Counterpart.emitFor (user : Given User) (account : Option AccountCard) (kind : Kind)
    (complete : Record → Record) :
    Logged.Counterpart reason (Gives reason) (kept.emitFor user account kind complete)
      (failing.emitFor user account kind complete) :=
  .bind_silent _ (handedRecords_user user)
    (.bind_silent _ (handedRecords_accept account) (hrecorder.emit _))

/-- An access is dropped by both recorders or handed over by both. -/
theorem Counterpart.recordMembers (user : Given User) (account : Option AccountCard)
    (event : EventRef) (field : Field) (context : Members) (value : Option String) :
    Logged.Counterpart reason (Gives reason)
      (kept.recordMembers user account event field context value)
      (failing.recordMembers user account event field context value) := by
  have hsalt : failing.salt = kept.salt := hrecorder.fails ▸ rfl
  unfold Recorder.recordMembers
  rw [hsalt]
  split
  · exact hrecorder.emitFor ..
  · exact ⟨hrecorder.gives_nothing, .cons (.same _ rfl) .nil⟩

theorem Counterpart.recordSettingsChange (user : Given User) (account : Option AccountCard)
    (before after : Given Settings) :
    Logged.Counterpart reason (Gives reason)
      (kept.recordSettingsChange user account before after)
      (failing.recordSettingsChange user account before after) := by
  have hsilent : handedRecords (Changes.ofGiven before after).events = [] := by
    simp [Changes.ofGiven, handedRecords_settings]
  exact .bind_silent _ hsilent (.ite (.pure hrecorder.gives_nothing) (hrecorder.emitFor ..))

end Audit.Recorder

namespace Settings

open Audit.Recorder (Counterpart Gives)

def Updated.unrecorded (updated : Updated) : Updated := { updated with records := [] }

/-- Both recorders see the same update: rejected for the same issues, or
accepted with the same settings, of which only one recorder gives records. -/
structure Gives (reason : String) (kept failing : Reading Updated × Recorder) : Prop where
  result : failing.1 = Updated.unrecorded <$> kept.1
  recorder : Counterpart reason kept.2 failing.2

variable {kept failing : Recorder} (user : Given User) (account : Option AccountCard)

theorem counterpart_recordSwitched (hrecorder : Counterpart reason kept failing)
    (before : Option Settings) (after : Settings) :
    Logged.Counterpart reason (Audit.Recorder.Gives reason)
      (recordSwitched user account kept before after)
      (recordSwitched user account failing before after) :=
  .ite (hrecorder.emitFor ..) (.pure hrecorder.gives_nothing)

/-- An update has the same outcome whether or not it can be recorded. -/
theorem counterpart_update (hrecorder : Counterpart reason kept failing)
    (current : Given Settings) (payload : Json) :
    Logged.Counterpart reason (Gives reason) (update kept user account current payload)
      (update failing user account current payload) := by
  have hsilent : handedRecords (current.settings.events ++
      (applyUpdate (.ready current.settings.answer) payload).events) = [] := by
    rw [handedRecords_append, Audit.handedRecords_settings, handedRecords_applyUpdate,
      List.nil_append]
  cases happlied : (applyUpdate (.ready current.settings.answer) payload).answer with
  | rejected issues =>
      rw [update_of_rejected user account happlied, update_of_rejected user account happlied]
      exact ⟨⟨rfl, hrecorder⟩, Event.forall₂_counterpart_self hsilent⟩
  | accepted after =>
      have hchanged := hrecorder.recordSettingsChange user account
        (.ready current.settings.answer) (.ready (some after))
      have hswitched := counterpart_recordSwitched user account hchanged.answer.recorder
        current.settings.answer after
      rw [update_of_accepted user account happlied, update_of_accepted user account happlied]
      refine ⟨⟨?_, hswitched.answer.recorder⟩, ?_⟩
      · simp only [hchanged.answer.nothing, hswitched.answer.nothing]
        rfl
      · refine List.rel_append (Event.forall₂_counterpart_self hsilent)
          (List.rel_append (List.rel_append hchanged.events hswitched.events) ?_)
        simp only [hchanged.answer.nothing, hswitched.answer.nothing]
        exact .cons (.unrecorded ..) .nil

end Settings

end ContactPrivacy
