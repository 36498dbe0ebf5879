/-
The log of a session never tells a value.  Beside a session stands one that
serves the same calls with every value renamed.  Call after call both log the
same but for digests, whatever they answer: what is logged depends on values
only by whether two are the same and whether one is empty.
-/
import ContactPrivacy.Display.Session
import ContactPrivacy.Proofs.Protection.Renamed
import ContactPrivacy.Proofs.Reveal.Renamed
import Mathlib.Logic.Equiv.Basic

namespace ContactPrivacy.Display

open Audit (Recorder Sink Store)
open Logged (SameLog)
open Reveal (Desk DeskCall HandleRef Reveals Seconds TimedHandle Timeline rel_cases)

variable {T : Type} {rename : String → String}

/-- The call with its values renamed.  Of a payload these are the texts directly
under the keys of contact data; keys, contexts, fields and clock stay. -/
def Call.renamed (rename : String → String) : Call T → Call T
  | .mask value field => .mask (value.map rename) field
  | .maskEmailList value => .maskEmailList (value.map rename)
  | .display value field key => .display (value.map rename) field key
  | .create value field key name => .create (value.map rename) field key name
  | .reveal value field key context => .reveal (value.map rename) field key context
  | .copy value field context => .copy (value.map rename) field context
  | .showsLink value dataType => .showsLink (value.map rename) dataType
  | .linkValue value field => .linkValue (value.map rename) field
  | .contact payload => .contact (Contact.replace (fun _ => rename) payload)
  | .desk call => .desk (call.renamed rename)
  | call => call

namespace Session

/-- A session of the renamed values: the same policy, account and user, a sink of
one kind, and the handles of the renamed values. -/
structure Renamed (rename : String → String) (first second : Session T) : Prop where
  policy : second.policy = first.policy
  account : second.account = first.account
  user : second.protection.user = first.protection.user
  sink : first.recorder.sink.SameKind second.recorder.sink
  desk : first.desk.Renamed rename second.desk

variable {first second : Session T} (hsession : Renamed rename first second)

include hsession

theorem Renamed.isProtected_eq : second.isProtected = first.isProtected := by
  simp only [Session.isProtected, Protection.isProtected, hsession.user]

theorem Renamed.get? (key : String) :
    Option.Rel (TimedHandle.Renamed rename) (first.reveals.get? key) (second.reveals.get? key) :=
  hsession.desk.reveals.get? key

theorem Renamed.withReveals {reveals other : Reveals T}
    (hreveals : Reveals.Renamed rename reveals other) :
    Renamed rename (first.withReveals reveals) (second.withReveals other) :=
  { hsession with desk := hsession.desk.withReveals hreveals }

theorem Renamed.setHandle (key : String) {handle other : TimedHandle T}
    (hhandle : handle.Renamed rename other) :
    Renamed rename (first.withReveals (first.reveals.setHandle key handle))
      (second.withReveals (second.reveals.setHandle key other)) :=
  hsession.withReveals (hsession.desk.reveals.setHandle key hhandle)

/-- A key holds a handle for the value exactly if it holds one for its name. -/
theorem Renamed.handleFor? (hrename : Renaming rename) (key raw : String) :
    Option.Rel (TimedHandle.Renamed rename) (first.handleFor? key raw)
      (second.handleFor? key (rename raw)) := by
  rcases rel_cases (hsession.get? key) with
    ⟨hfirst, hsecond⟩ | ⟨handle, twin, hfirst, hsecond, hhandle⟩
  · rw [Session.handleFor?, Session.handleFor?, hfirst, hsecond]
    exact .none
  · have hraw : twin.raw = rename raw ↔ handle.raw = raw := by
      rw [hhandle, hrename.injective.eq_iff]
    rw [Session.handleFor?, Session.handleFor?, hfirst, hsecond]
    simp only [Option.filter_some, hraw]
    split
    · exact .some hhandle
    · exact .none

theorem Renamed.record (hrename : Renaming rename) (kind : Audit.Kind) (field : Field)
    (context : Members) (value : String) :
    SameLog (Renamed rename) (first.record kind field context value)
      (second.record kind field context (rename value)) := by
  unfold Session.record
  rw [hsession.policy, hsession.account]
  refine .bind (Recorder.sameLog_recordMembers hsession.sink hrename _ _ _ _ _ (some value)) ?_
  exact fun hsink => .pure ⟨rfl, rfl, hsession.user, hsink, hsession.desk⟩

theorem Renamed.copy (hrename : Renaming rename) (value : Option String) (field : Field)
    (context : Option Members) :
    SameLog (Renamed rename) (first.copy value field context)
      (second.copy (value.map rename) field context) := by
  unfold Session.copy
  rw [hrename.filter_map]
  cases value.filter (· ≠ "") with
  | none => exact .pure hsession
  | some raw => exact hsession.record hrename _ _ _ raw

theorem Renamed.rawVisible_eq (dataType : DataType) :
    second.rawVisible dataType = first.rawVisible dataType := by
  unfold Session.rawVisible
  rw [hsession.isProtected_eq, hsession.policy]

theorem Renamed.showsLink_eq (hrename : Renaming rename) (value : Option String)
    (dataType : DataType) :
    second.showsLink (value.map rename) dataType = first.showsLink value dataType := by
  unfold Session.showsLink
  rw [hrename.filter_map, hsession.rawVisible_eq]
  cases value.filter (· ≠ "") <;> rfl

theorem Renamed.linkValue (value : Option String) (field : Field) :
    SameLog (fun _ _ => True) (first.linkValue value field)
      (second.linkValue (value.map rename) field) := by
  unfold Session.linkValue
  split
  · rw [hsession.rawVisible_eq]
    exact .bind_same _ (.pure trivial)
  · exact .pure trivial

theorem Renamed.maskContact (hrename : Renaming rename) (payload : Json) :
    SameLog (fun x y => Renamed rename x.2 y.2) (first.maskContact payload)
      (second.maskContact (Contact.replace (fun _ => rename) payload)) := by
  unfold Session.maskContact
  rw [hsession.isProtected_eq, hsession.policy]
  refine .ite ?_ ?_
  · refine .bind (Protection.sameLog_sanitize hrename hsession.user payload) fun huser => ?_
    exact .pure ⟨rfl, hsession.account, huser, hsession.sink, hsession.desk⟩
  · exact .bind (first.policy.sameLog_maskContact _ payload) fun _ => .pure hsession

theorem Renamed.create (hrename : Renaming rename) (value : Option String) (field : Field)
    (key : String) :
    SameLog (fun x y => y.1 = x.1.map (HandleRef.renamed rename) ∧ Renamed rename x.2 y.2)
      (first.create value field key) (second.create (value.map rename) field key) := by
  unfold Session.create
  rw [hsession.isProtected_eq, hsession.policy]
  refine .ite (.pure ⟨rfl, hsession⟩) (.bind_same _ (.ite (.pure ⟨rfl, hsession⟩) ?_))
  refine .bind (hsession.desk.reveals.create hrename value field key) fun hcreated => ?_
  exact .pure ⟨congrArg some hcreated.1, hsession.withReveals hcreated.2⟩

theorem Renamed.hide (key : String) :
    Renamed rename (first.hide key).2 (second.hide key).2 := by
  rcases rel_cases (hsession.get? key) with
    ⟨hfirst, hsecond⟩ | ⟨handle, twin, hfirst, hsecond, hhandle⟩
  · simp only [Session.hide, hfirst, hsecond]
    exact hsession
  · simp only [Session.hide, hfirst, hsecond]
    exact hsession.setHandle key hhandle

variable [Timeline T]

theorem Renamed.display (hrename : Renaming rename) (value : Option String) (field : Field)
    (key : Option String) :
    SameLog (fun x y => Renamed rename x.2 y.2) (first.display value field key)
      (second.display (value.map rename) field key) := by
  unfold Session.display
  rw [hsession.isProtected_eq, hsession.policy, hrename.filter_map]
  refine .ite (.pure hsession) ?_
  cases value.filter (· ≠ "") with
  | none => exact .pure hsession
  | some raw =>
      refine .bind_same _ ?_
      cases (first.policy.look field).answer with
      | unmasked => exact .pure hsession
      | masked pattern =>
          dsimp only
          cases key.filter fun key => key ≠ "" && first.policy.mayReveal field with
          | none => exact .bind (first.policy.sameLog_mask ..) fun _ => .pure hsession
          | some key =>
              rcases rel_cases (hsession.handleFor? hrename key raw) with
                ⟨hfirst, hsecond⟩ | ⟨handle, twin, hfirst, hsecond, hhandle⟩
              · simp only [Option.bind_some, hfirst, hsecond]
                exact .bind (first.policy.sameLog_mask ..) fun _ => .pure hsession
              · simp only [Option.map_some, Option.bind_some, hfirst, hsecond]
                exact .pure (hsession.setHandle key hhandle)

theorem Renamed.revealStored (key : String) :
    Renamed rename (first.revealStored key) (second.revealStored key) := by
  rcases rel_cases (hsession.get? key) with
    ⟨hfirst, hsecond⟩ | ⟨handle, twin, hfirst, hsecond, hhandle⟩
  · simp only [Session.revealStored, hfirst, hsecond]
    exact hsession
  · simp only [Session.revealStored, hfirst, hsecond]
    exact hsession.setHandle key hhandle

theorem Renamed.revealAt (hrename : Renaming rename) (raw : String) (field : Field)
    (key : String) :
    SameLog (Renamed rename) (first.revealAt raw field key)
      (second.revealAt (rename raw) field key) := by
  rcases rel_cases (hsession.handleFor? hrename key raw) with
    ⟨hfirst, hsecond⟩ | ⟨handle, twin, hfirst, hsecond, -⟩
  · simp only [Session.revealAt, hfirst, hsecond]
    refine .bind (hsession.desk.reveals.create hrename (some raw) field key) ?_
    rintro ⟨ref, reveals⟩ ⟨-, other⟩ ⟨rfl, hreveals⟩
    cases ref with
    | timed serial => exact .pure ((hsession.withReveals hreveals).revealStored key)
    | passthrough raw => exact .pure (hsession.withReveals hreveals)
  · simp only [Session.revealAt, hfirst, hsecond]
    exact .pure (hsession.revealStored key)

theorem Renamed.reveal (hrename : Renaming rename) (value : Option String) (field : Field)
    (key : String) (context : Option Members) :
    SameLog (fun x y => Renamed rename x.2 y.2) (first.reveal value field key context)
      (second.reveal (value.map rename) field key context) := by
  unfold Session.reveal
  rw [hsession.isProtected_eq, hsession.policy, hrename.filter_map]
  refine .ite (.bind_same _ (.pure hsession)) ?_
  cases value.filter (· ≠ "") with
  | none => exact .pure hsession
  | some raw =>
      refine .bind_same _ ?_
      cases (first.policy.look field).answer with
      | unmasked => exact .pure hsession
      | masked pattern =>
          refine .ite ?_
            (.bind_same _ (.bind (first.policy.sameLog_mask ..) fun _ => .pure hsession))
          refine .bind (hsession.revealAt hrename raw field key) fun hrevealed => ?_
          exact .bind (hrevealed.record hrename _ _ _ raw) fun hrecorded => .pure hrecorded

/-- One call leaves the sessions the same but for the renaming, and logs the same. -/
theorem Renamed.step (hrename : Renaming rename) (call : Call T) :
    SameLog (fun x y => Renamed rename x.2 y.2) (first.step call)
      (second.step (call.renamed rename)) := by
  cases call with
  | canView | canReveal | isProtected => exact .pure hsession
  | decision field | isMaskingEnabled field =>
      simp only [Session.step, Call.renamed, hsession.policy]
      exact .bind_same _ (.pure hsession)
  | mask value field =>
      simp only [Session.step, Call.renamed, hsession.policy]
      exact .bind (first.policy.sameLog_mask ..) fun _ => .pure hsession
  | maskEmailList value =>
      simp only [Session.step, Call.renamed, hsession.policy]
      exact .bind (first.policy.sameLog_maskEmailList ..) fun _ => .pure hsession
  | display value field key =>
      exact .bind (hsession.display hrename value field key) fun hafter => .pure hafter
  | create value field key name =>
      refine .bind (hsession.create hrename value field key) ?_
      rintro ⟨ref, after⟩ ⟨-, other⟩ ⟨rfl, hafter⟩
      exact .pure { hafter with desk := hafter.desk.remember name ref }
  | reveal value field key context =>
      exact .bind (hsession.reveal hrename value field key context) fun hafter => .pure hafter
  | hide key => exact .pure (hsession.hide key)
  | copy value field context =>
      exact .bind (hsession.copy hrename value field context) fun hafter => .pure hafter
  | showsLink value dataType =>
      simp only [Session.step, Call.renamed, hsession.showsLink_eq hrename]
      exact .bind_same _ (.pure hsession)
  | linkValue value field =>
      exact .bind (hsession.linkValue value field) fun _ => .pure hsession
  | contact payload =>
      exact .bind (hsession.maskContact hrename payload) fun hafter => .pure hafter
  | desk call =>
      refine .bind (hsession.desk.step hrename call) fun hdesk => ?_
      exact .pure { hsession with desk := hdesk }

/-- A run leaves the sessions the same but for the renaming, and logs the same. -/
theorem Renamed.run (hrename : Renaming rename) (calls : List (Call T)) :
    SameLog (fun x y => Renamed rename x.2 y.2) (first.run calls)
      (second.run (calls.map (Call.renamed rename))) := by
  induction calls generalizing first second with
  | nil => exact .pure hsession
  | cons call rest ih =>
      refine .bind (hsession.step hrename call) fun hafter => ?_
      exact .bind (ih hafter) fun hlast => .pure hlast

omit hsession [Timeline T] in
/-- Sessions that start alike, with the handles of the renamed values handed in. -/
theorem renamed_start (policy : Policy) (account : Option AccountCard) (recorder : Recorder)
    (durationMs : Number) {supplied other : Option (Reveals T)}
    (hsupplied : Option.Rel (Reveals.Renamed rename) supplied other) (now : T) :
    Renamed rename (start policy account recorder durationMs supplied now)
      (start policy account recorder durationMs other now) := by
  refine ⟨rfl, rfl, rfl, recorder.sink.sameKind_refl, ?_, .nil⟩
  rcases rel_cases hsupplied with ⟨rfl, rfl⟩ | ⟨reveals, twin, rfl, rfl, hreveals⟩
  · exact Reveals.renamed_empty rename policy durationMs
  · have hsize : twin.size = reveals.size := hreveals.size_eq
    by_cases hempty : reveals.size = 0
    · simp only [start, Desk.start, Option.filter_some, hsize, hempty]
      exact Reveals.renamed_empty rename policy durationMs
    · simp only [start, Desk.start, Option.filter_some, hsize, ne_eq, hempty, not_false_iff,
        decide_true, if_true]
      exact hreveals

omit hsession in
/-- Logs never carry raw values.  Two sessions start alike, one perhaps with the
handles of the other renamed, and serve the same calls, one with every value
renamed.  Whatever the sink, both log the same events in the same order with the
same fields, but for what digests say. -/
theorem log_hides_values (hrename : Renaming rename) (policy : Policy)
    (account : Option AccountCard) (recorder : Recorder) (durationMs : Number)
    {supplied other : Option (Reveals T)}
    (hsupplied : Option.Rel (Reveals.Renamed rename) supplied other) (now : T)
    (calls : List (Call T)) :
    let session := start policy account recorder durationMs supplied now
    let twin := start policy account recorder durationMs other now
    (session.run calls).events.map Event.redacted =
      (twin.run (calls.map (Call.renamed rename))).events.map Event.redacted := by
  intro session twin
  have hstart : Renamed rename session twin :=
    renamed_start policy account recorder durationMs hsupplied now
  exact (hstart.run hrename calls).events

omit hsession [Timeline T] in
/-- A copy and a reveal of one address, and of another: the log tells of either
as much. -/
theorem log_hides_values_of_swap :
    let rename : String → String := Equiv.swap "ada@example.com" "bob@example.org"
    let calls := fun address : String =>
      [Call.copy (some address) Field.email none, .reveal (some address) Field.email "k" none]
    let log := fun address : String =>
      ((start ⟨some .default, none⟩ none ⟨.log, ""⟩ (.int 3000) none
        (Seconds.ofMs (.int 0))).run (calls address)).events
    Renaming rename ∧ rename "ada@example.com" = "bob@example.org" ∧
      (log "ada@example.com").map Event.message =
        ["masking_audit", "audit_record_emitted", "masking_decision_resolved",
          "masking_decision_resolved", "reveal_handle_created", "masking_audit",
          "audit_record_emitted"] ∧
      (log "ada@example.com").map Event.redacted = (log "bob@example.org").map Event.redacted := by
  intro rename calls log
  have hrename : Renaming rename := ⟨Equiv.injective _, by decide⟩
  have hswap : rename "ada@example.com" = "bob@example.org" := by decide
  have hcalls : (calls "ada@example.com").map (Call.renamed rename) = calls "bob@example.org" := by
    simp [calls, Call.renamed, hswap]
  have hsame := log_hides_values hrename ⟨some .default, none⟩ none ⟨.log, ""⟩ (.int 3000) .none
    (Seconds.ofMs (.int 0)) (calls "ada@example.com")
  rw [hcalls] at hsame
  exact ⟨hrename, hswap, rfl, hsame⟩

end Session

end ContactPrivacy.Display
