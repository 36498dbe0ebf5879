/-
The terms of a session's reveals: the policy and the duration they are bound
to, which nothing that is done with them changes.
-/
import ContactPrivacy.Proofs.Reveal.Deposit

namespace ContactPrivacy.Reveal

namespace Reveals

variable {T : Type}

def terms (reveals : Reveals T) : Policy × Number := (reveals.policy, reveals.durationMs)

@[simp] theorem terms_setHandle (reveals : Reveals T) (key : String) (handle : TimedHandle T) :
    (reveals.setHandle key handle).terms = reveals.terms := by
  unfold setHandle
  split <;> rfl

@[simp] theorem terms_create (reveals : Reveals T) (value : Option String) (field : Field)
    (key : String) : (reveals.create value field key).answer.2.terms = reveals.terms := by
  rcases reveals.policy.passes_or_masks field value with hpasses | ⟨pattern, raw, hmasks⟩
  · rw [create_passes hpasses]
  · rw [create_masked hmasks]
    rfl

variable [Timeline T]

theorem terms_currentValue (reveals : Reveals T) (now : T) (key : String)
    (default : Option String) :
    (reveals.currentValue now key default).2.terms = reveals.terms := by
  unfold currentValue
  split
  · exact terms_setHandle reveals key _
  · rfl

theorem terms_call (reveals : Reveals T) (now : T) (ref : HandleRef) (call : HandleCall)
    {answer : HandleAnswer T} {after : Reveals T}
    (hcall : reveals.call now ref call = some (answer, after)) : after.terms = reveals.terms := by
  cases ref with
  | passthrough raw =>
      obtain ⟨-, rfl⟩ := Prod.mk.inj (Option.some.inj hcall)
      rfl
  | timed serial =>
      obtain ⟨handle, -, hpair⟩ := Option.map_eq_some_iff.mp hcall
      obtain ⟨-, rfl⟩ := Prod.mk.inj hpair
      rfl

end Reveals

namespace Desk

variable {T : Type} [Timeline T]

theorem terms_callNamed (desk : Desk T) (name : String) (call : HandleCall) :
    (desk.callNamed name call).2.reveals.terms = desk.reveals.terms := by
  unfold callNamed
  split
  · next answer reveals hcall =>
      obtain ⟨ref, -, hcall⟩ := Option.bind_eq_some_iff.mp hcall
      exact desk.reveals.terms_call desk.now ref call hcall
  · rfl

theorem terms_step (desk : Desk T) (call : DeskCall T) :
    (desk.step call).answer.2.reveals.terms = desk.reveals.terms := by
  cases call with
  | create value field key name => exact desk.reveals.terms_create value field key
  | handle name call => exact desk.terms_callNamed name call
  | currentValue key default => exact desk.reveals.terms_currentValue desk.now key default
  | _ => rfl

end Desk

end ContactPrivacy.Reveal
