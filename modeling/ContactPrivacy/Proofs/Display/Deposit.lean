/-
The deposits of a session's keys, told by its calls alone, and the invariant
that ties them to the session: every handle that a key holds is of the value
of the key's deposit, masked for the field of the deposit.
-/
import ContactPrivacy.Proofs.Display.Terms
import Mathlib.Data.List.Induction

namespace ContactPrivacy

namespace Reveal.Deposits

open Display (Call)

variable {T : Type}

/-- The deposits after a call.  Protected users and fields that may not be
revealed leave none, and a reveal keeps a handle that is of its value. -/
def after (policy : Policy) (deposits : Deposits) : Call T → Deposits
  | .create value field key _ =>
      if policy.protects || !policy.mayReveal field then deposits
      else deposits.offer policy value field key
  | .reveal value field key _ =>
      if policy.protects || !policy.mayReveal field || (deposits key).map Deposit.raw = value
      then deposits
      else deposits.offer policy value field key
  | .desk call => deposits.afterDesk policy call
  | _ => deposits

def ofCalls (policy : Policy) (calls : List (Call T)) : Deposits :=
  calls.foldl (after policy) empty

/-- What an offer leaves at a key is the value offered or what was there. -/
theorem offer_eq_some {deposits : Deposits} {policy : Policy} {value : Option String}
    {field : Field} {offered key : String} {deposit : Deposit}
    (hfound : deposits.offer policy value field offered key = some deposit) :
    deposits key = some deposit ∨
      (key = offered ∧ value = some deposit.raw ∧ deposit.field = field) := by
  rcases policy.passes_or_masks field value with hpasses | ⟨pattern, raw, hmasks⟩
  · rw [offer_passes deposits hpasses] at hfound
    exact Or.inl hfound
  · rw [offer_masked deposits hmasks] at hfound
    by_cases hkey : key = offered
    · rw [hkey, put_self] at hfound
      obtain rfl := Option.some.inj hfound
      exact Or.inr ⟨hkey, hmasks.1, rfl⟩
    · rw [put_of_ne deposits _ hkey] at hfound
      exact Or.inl hfound

end Reveal.Deposits

namespace Display

open Reveal (Deposit Deposits Desk DeskCall Reveals TimedHandle Timeline)

variable {T : Type}

/-- A call creates or reveals a value of a field at a key. -/
def Call.Gives (key raw : String) (field : Field) : Call T → Prop
  | .create value field' key' _ => value = some raw ∧ field' = field ∧ key' = key
  | .reveal value field' key' _ => value = some raw ∧ field' = field ∧ key' = key
  | .desk (.create value field' key' _) => value = some raw ∧ field' = field ∧ key' = key
  | _ => False

theorem after_eq_some {policy : Policy} {deposits : Deposits} {call : Call T} {key : String}
    {deposit : Deposit} (hfound : deposits.after policy call key = some deposit) :
    deposits key = some deposit ∨ call.Gives key deposit.raw deposit.field := by
  have given {value : Option String} {field : Field} {offered : String}
      (hoffer : deposits.offer policy value field offered key = some deposit) :
      deposits key = some deposit ∨
        (value = some deposit.raw ∧ field = deposit.field ∧ offered = key) := by
    rcases Deposits.offer_eq_some hoffer with hold | ⟨hkey, hvalue, hfield⟩
    · exact Or.inl hold
    · exact Or.inr ⟨hvalue, hfield.symm, hkey.symm⟩
  cases call with
  | create value field offered name =>
      simp only [Deposits.after] at hfound
      split at hfound
      · exact Or.inl hfound
      · exact given hfound
  | reveal value field offered context =>
      simp only [Deposits.after] at hfound
      split at hfound
      · exact Or.inl hfound
      · exact given hfound
  | desk call =>
      cases call with
      | create value field offered name => exact given hfound
      | clear => simp [Deposits.after, Deposits.afterDesk, Deposits.empty] at hfound
      | _ => exact Or.inl hfound
  | _ => exact Or.inl hfound

/-- A deposit was given by one of the calls. -/
theorem exists_gives_of_deposit {policy : Policy} {calls : List (Call T)} {key : String}
    {deposit : Deposit} (hfound : Deposits.ofCalls policy calls key = some deposit) :
    ∃ call ∈ calls, call.Gives key deposit.raw deposit.field := by
  induction calls using List.reverseRecOn with
  | nil => simp [Deposits.ofCalls, Deposits.empty] at hfound
  | append_singleton before call ih =>
      rw [Deposits.ofCalls, List.foldl_append] at hfound
      rcases after_eq_some hfound with hold | hgives
      · obtain ⟨earlier, hearlier, hgives⟩ := ih hold
        exact ⟨earlier, List.mem_append_left _ hearlier, hgives⟩
      · exact ⟨call, by simp, hgives⟩

namespace Session

/-- The invariant of a session on its own reveals: they are bound to its
policy and keep the deposits of its calls. -/
structure Keeps (session : Session T) (policy : Policy) (deposits : Deposits) : Prop where
  policy_eq : session.policy = policy
  user_eq : session.protection.user = policy.user
  bound_eq : session.reveals.policy = policy
  kept : session.reveals.Keeps deposits

theorem Keeps.isProtected {session : Session T} {policy : Policy} {deposits : Deposits}
    (hkeeps : session.Keeps policy deposits) : session.isProtected = policy.protects := by
  rw [Session.isProtected, Protection.isProtected, hkeeps.user_eq]
  rfl

theorem start_keeps (policy : Policy) (account : Option AccountCard) (recorder : Audit.Recorder)
    (durationMs : Number) (now : T) :
    (start policy account recorder durationMs none now).Keeps policy Deposits.empty :=
  ⟨rfl, rfl, rfl, Reveals.empty_keeps policy durationMs⟩

theorem keeps_of_terms {session after : Session T} {policy : Policy} {before deposits : Deposits}
    (hkeeps : session.Keeps policy before) (hterms : after.terms = session.terms)
    (hreveals : after.reveals.Keeps deposits) : after.Keeps policy deposits := by
  simp only [terms, Terms.mk.injEq, Reveals.terms, Prod.mk.injEq] at hterms
  obtain ⟨hpolicy, -, huser, -, hbound, -⟩ := hterms
  exact ⟨hpolicy.trans hkeeps.policy_eq, huser.trans hkeeps.user_eq, hbound.trans hkeeps.bound_eq,
    hreveals⟩

theorem create_keeps {session : Session T} {policy : Policy} {deposits : Deposits}
    (hkeeps : session.Keeps policy deposits) (value : Option String) (field : Field)
    (key name : String) :
    (session.create value field key).answer.2.reveals.Keeps
      (deposits.after policy (.create value field key name : Call T)) := by
  simp only [Deposits.after]
  cases hprotected : policy.protects with
  | true =>
      rw [create_protected (hkeeps.isProtected.trans hprotected)]
      exact hkeeps.kept
  | false =>
      have hopen := hkeeps.isProtected.trans hprotected
      cases hreveal : policy.mayReveal field with
      | true =>
          rw [create_granted hopen (Or.inr (hkeeps.policy_eq ▸ hreveal))]
          have hcreate := hkeeps.kept.create value field key
          rw [hkeeps.bound_eq] at hcreate
          exact hcreate
      | false =>
          cases hdecide : policy.decide field with
          | unmasked =>
              rw [create_granted hopen (Or.inl (hkeeps.policy_eq ▸ hdecide))]
              have hpasses : session.reveals.policy.Passes field value :=
                Or.inr (hkeeps.bound_eq ▸ hdecide)
              rw [Reveals.create_passes hpasses]
              exact hkeeps.kept
          | masked pattern =>
              have hmasked : (session.policy.decide field).shouldMask = true := by
                rw [hkeeps.policy_eq, hdecide]
                rfl
              rw [create_refused hopen hmasked (hkeeps.policy_eq ▸ hreveal)]
              exact hkeeps.kept

theorem hide_keeps {session : Session T} {deposits : Deposits}
    (hkeeps : session.reveals.Keeps deposits) (key : String) :
    (session.hide key).2.reveals.Keeps deposits := by
  cases hhandle : session.reveals.get? key with
  | none =>
      rw [hide_of_none hhandle]
      exact hkeeps
  | some handle =>
      rw [hide_of_get? hhandle]
      exact hkeeps.setHandle hhandle rfl

variable [Timeline T]

theorem display_keeps {session : Session T} {deposits : Deposits}
    (hkeeps : session.reveals.Keeps deposits) (value : Option String) (field : Field)
    (key : Option String) :
    (session.display value field key).answer.2.reveals.Keeps deposits := by
  cases hprotected : session.isProtected with
  | true =>
      rw [display_protected hprotected]
      exact hkeeps
  | false =>
      rcases session.policy.passes_or_masks field value with hpasses | ⟨pattern, raw, hmasks⟩
      · rw [display_passes hprotected hpasses]
        exact hkeeps
      · cases hconsulted : session.consulted? raw field key with
        | none =>
            rw [display_of_not_consulted hprotected hmasks hconsulted]
            exact hkeeps
        | some found =>
            rw [display_of_consulted hprotected hmasks hconsulted]
            obtain ⟨-, -, -, hhandle, -⟩ :=
              (session.consulted?_eq_some_iff raw field key found.1 found.2).mp hconsulted
            exact hkeeps.setHandle hhandle rfl

theorem revealAt_keeps {session : Session T} {policy : Policy} {deposits : Deposits}
    (hkeeps : session.Keeps policy deposits) {field : Field} {pattern : Pattern} {raw : String}
    (hmasks : policy.Masks field pattern (some raw) raw) (key : String) :
    (session.revealAt raw field key).answer.reveals.Keeps
      (if (deposits key).map Deposit.raw = some raw then deposits
        else deposits.offer policy (some raw) field key) := by
  have htexts := hkeeps.kept.texts key
  cases hown : session.handleFor? key raw with
  | some handle =>
      obtain ⟨hhandle, hraw⟩ := (session.handleFor?_eq_some_iff key raw handle).mp hown
      obtain ⟨other, -, hdeposit, -⟩ := hkeeps.kept.get?_eq_some hhandle
      rw [revealAt_of_handle hhandle hraw]
      simp only [hdeposit, Option.map_some, hraw, if_true]
      exact hkeeps.kept.setHandle hhandle rfl
  | none =>
      have hnew := (session.handleFor?_eq_none_iff key raw).mp hown
      have hdeposit : (deposits key).map Deposit.raw ≠ some raw := by
        intro hraw
        obtain ⟨deposit, hdeposit, rfl⟩ := Option.map_eq_some_iff.mp hraw
        rw [hdeposit] at htexts
        obtain ⟨handle, hhandle, hsame⟩ := Option.map_eq_some_iff.mp htexts
        exact hnew handle hhandle (Prod.mk.inj hsame).1
      have hmasks' : session.reveals.policy.Masks field pattern (some raw) raw :=
        hkeeps.bound_eq ▸ hmasks
      have hcreate := hkeeps.kept.create (some raw) field key
      rw [Reveals.create_masked hmasks', hkeeps.bound_eq] at hcreate
      rw [revealAt_of_new hnew hmasks', if_neg hdeposit]
      exact hcreate.setHandle (Reveals.get?_store ..) rfl

theorem reveal_keeps {session : Session T} {policy : Policy} {deposits : Deposits}
    (hkeeps : session.Keeps policy deposits) (value : Option String) (field : Field)
    (key : String) (context : Option Members) :
    (session.reveal value field key context).answer.2.reveals.Keeps
      (deposits.after policy (.reveal value field key context : Call T)) := by
  simp only [Deposits.after]
  cases hprotected : policy.protects with
  | true =>
      rw [reveal_protected (hkeeps.isProtected.trans hprotected)]
      exact hkeeps.kept
  | false =>
      have hopen := hkeeps.isProtected.trans hprotected
      have hpolicy := hkeeps.policy_eq
      rcases policy.passes_or_masks field value with hpasses | ⟨pattern, raw, hmasks⟩
      · rw [reveal_passes hopen (hpolicy ▸ hpasses), deposits.offer_passes hpasses, ite_self]
        exact hkeeps.kept
      · cases hreveal : policy.mayReveal field with
        | false =>
            rw [reveal_refused hopen (hpolicy ▸ hmasks) (hpolicy ▸ hreveal)]
            exact hkeeps.kept
        | true =>
            obtain ⟨rfl, hraw, -⟩ := id hmasks
            rw [reveal_granted hopen (hpolicy ▸ hreveal) hraw]
            simpa using revealAt_keeps hkeeps hmasks key

/-- Every call keeps the invariant, with the deposits that are there after it. -/
theorem Keeps.step {session : Session T} {policy : Policy} {deposits : Deposits}
    (hkeeps : session.Keeps policy deposits) (call : Call T) :
    (session.step call).answer.2.Keeps policy (deposits.after policy call) := by
  apply keeps_of_terms hkeeps (session.terms_step call)
  cases call with
  | display value field key => exact display_keeps hkeeps.kept value field key
  | create value field key name => exact create_keeps hkeeps value field key name
  | reveal value field key context => exact reveal_keeps hkeeps value field key context
  | hide key => exact hide_keeps hkeeps.kept key
  | copy value field context =>
      have hreveals := session.reveals_copy value field context
      exact hreveals ▸ hkeeps.kept
  | contact payload =>
      have hreveals := session.reveals_maskContact payload
      exact hreveals ▸ hkeeps.kept
  | desk call =>
      have hdesk := Desk.step_keeps hkeeps.kept call
      rw [show session.desk.reveals.policy = policy from hkeeps.bound_eq] at hdesk
      exact hdesk
  | _ => exact hkeeps.kept

theorem Keeps.run {session : Session T} {policy : Policy} {deposits : Deposits}
    (hkeeps : session.Keeps policy deposits) (calls : List (Call T)) :
    (session.run calls).answer.2.Keeps policy (calls.foldl (Deposits.after policy) deposits) := by
  induction calls generalizing session deposits with
  | nil => exact hkeeps
  | cons call rest ih => exact ih (hkeeps.step call)

/-- After any calls a session on its own reveals keeps the deposits of the calls. -/
theorem keeps_of_run (policy : Policy) (account : Option AccountCard)
    (recorder : Audit.Recorder) (durationMs : Number) (now : T) (calls : List (Call T)) :
    ((start policy account recorder durationMs none now).run calls).answer.2.Keeps policy
      (Deposits.ofCalls policy calls) :=
  (start_keeps policy account recorder durationMs now).run calls

end Session

end Display

end ContactPrivacy
