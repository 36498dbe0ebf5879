/-
The terms of a session: what it is started with and no call changes.
-/
import ContactPrivacy.Proofs.Audit.Handing
import ContactPrivacy.Proofs.Display.Calls
import ContactPrivacy.Proofs.Reveal.Terms

namespace ContactPrivacy

open Reveal (Reveals Timeline)

namespace Display

variable {T : Type}

/-- What a session is started with and keeps: its policy, its account, the
user it protects, the salt of its digests, and the terms of its reveals. -/
structure Terms where
  policy : Policy
  account : Option AccountCard
  user : Option User
  salt : String
  reveals : Policy × Number

namespace Session

def terms (session : Session T) : Terms :=
  ⟨session.policy, session.account, session.protection.user, session.recorder.salt,
    session.reveals.terms⟩

theorem isProtected_eq_of_terms {first second : Session T} (hterms : first.terms = second.terms) :
    first.isProtected = second.isProtected := by
  have huser : first.protection.user = second.protection.user := congrArg Terms.user hterms
  rw [isProtected, isProtected, Protection.isProtected, Protection.isProtected, huser]

theorem terms_withReveals (session : Session T) {reveals : Reveals T}
    (hterms : reveals.terms = session.reveals.terms) :
    (session.withReveals reveals).terms = session.terms := by
  simp only [terms, reveals_withReveals, hterms]
  rfl

theorem terms_record (session : Session T) (kind : Audit.Kind) (field : Field)
    (context : Members) (value : String) :
    (session.record kind field context value).answer.terms = session.terms := by
  have hsalt := session.recorder.salt_recordMembers session.policy.user session.account kind
    field context (some value)
  simp only [record, Logged.answer_bind, Logged.answer_pure, terms, hsalt]
  rfl

theorem terms_copy (session : Session T) (value : Option String) (field : Field)
    (context : Option Members) :
    (session.copy value field context).answer.terms = session.terms := by
  unfold copy
  split
  · exact session.terms_record ..
  · rfl

theorem terms_maskContact (session : Session T) (payload : Json) :
    (session.maskContact payload).answer.2.terms = session.terms := by
  cases hprotected : session.isProtected with
  | false => simp [maskContact, hprotected]
  | true =>
      simp only [maskContact, hprotected, if_true, Logged.answer_bind, Logged.answer_pure,
        Protection.sanitize]
      split <;> rfl

theorem terms_create (session : Session T) (value : Option String) (field : Field)
    (key : String) : (session.create value field key).answer.2.terms = session.terms := by
  cases hprotected : session.isProtected with
  | true => rw [create_protected hprotected]
  | false =>
      simp only [create, hprotected, Bool.false_eq_true, if_false, Logged.answer_bind]
      split
      · rfl
      · exact session.terms_withReveals (session.reveals.terms_create value field key)

theorem terms_hide (session : Session T) (key : String) :
    (session.hide key).2.terms = session.terms := by
  cases hhandle : session.reveals.get? key with
  | none => rw [hide_of_none hhandle]
  | some handle =>
      rw [hide_of_get? hhandle]
      exact session.terms_withReveals (session.reveals.terms_setHandle key _)

variable [Timeline T]

theorem terms_display (session : Session T) (value : Option String) (field : Field)
    (key : Option String) :
    (session.display value field key).answer.2.terms = session.terms := by
  cases hprotected : session.isProtected with
  | true => rw [display_protected hprotected]
  | false =>
      rcases session.policy.passes_or_masks field value with hpasses | ⟨pattern, raw, hmasks⟩
      · rw [display_passes hprotected hpasses]
      · cases hconsulted : session.consulted? raw field key with
        | none => rw [display_of_not_consulted hprotected hmasks hconsulted]
        | some found =>
            rw [display_of_consulted hprotected hmasks hconsulted]
            exact session.terms_withReveals (session.reveals.terms_setHandle _ _)

theorem terms_revealStored (session : Session T) (key : String) :
    (session.revealStored key).terms = session.terms := by
  unfold revealStored
  split
  · exact session.terms_withReveals (session.reveals.terms_setHandle key _)
  · rfl

theorem terms_revealAt (session : Session T) (raw : String) (field : Field) (key : String) :
    (session.revealAt raw field key).answer.terms = session.terms := by
  have hcreate := session.terms_withReveals (session.reveals.terms_create (some raw) field key)
  unfold revealAt
  split
  · exact session.terms_revealStored key
  · rw [Logged.answer_bind]
    rcases hmade : (session.reveals.create (some raw) field key).answer with ⟨ref, reveals⟩
    rw [hmade] at hcreate
    cases ref with
    | timed serial => exact (terms_revealStored _ key).trans hcreate
    | passthrough raw => exact hcreate

theorem terms_reveal (session : Session T) (value : Option String) (field : Field)
    (key : String) (context : Option Members) :
    (session.reveal value field key context).answer.2.terms = session.terms := by
  cases hprotected : session.isProtected with
  | true => rw [reveal_protected hprotected]
  | false =>
      rcases session.policy.passes_or_masks field value with hpasses | ⟨pattern, raw, hmasks⟩
      · rw [reveal_passes hprotected hpasses]
      · cases hreveal : session.policy.mayReveal field with
        | false => rw [reveal_refused hprotected hmasks hreveal]
        | true =>
            obtain ⟨rfl, hraw, -⟩ := hmasks
            rw [reveal_granted hprotected hreveal hraw]
            exact (terms_record ..).trans (session.terms_revealAt raw field key)

/-- No call changes the terms of its session. -/
theorem terms_step (session : Session T) (call : Call T) :
    (session.step call).answer.2.terms = session.terms := by
  cases call with
  | display value field key => exact session.terms_display value field key
  | create value field key name => exact session.terms_create value field key
  | reveal value field key context => exact session.terms_reveal value field key context
  | hide key => exact session.terms_hide key
  | copy value field context => exact session.terms_copy value field context
  | contact payload => exact session.terms_maskContact payload
  | desk call =>
      have hdesk := session.desk.terms_step call
      simp only [step, Logged.answer_bind, Logged.answer_pure, terms, reveals]
      rw [hdesk]
  | _ => rfl

theorem terms_run (session : Session T) (calls : List (Call T)) :
    (session.run calls).answer.2.terms = session.terms := by
  induction calls generalizing session with
  | nil => rfl
  | cons call rest ih => exact (ih _).trans (session.terms_step call)

end Session

end Display

end ContactPrivacy
