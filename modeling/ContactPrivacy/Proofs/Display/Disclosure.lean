/-
Reveals and their records.  A reveal that is granted is handed to the sink
once, with the digest of the value; reveals of anything but contact data are
granted by the default rule, and the closed set of audited data drops them.
-/
import ContactPrivacy.Proofs.Display.Terms

namespace ContactPrivacy

open Audit (Recorder accessRecord)
open Reveal (Reveals Seconds TimedHandle Timeline)

variable {T : Type}

namespace Reveal.Reveals

/-- Making a handle hands nothing to a sink. -/
theorem handedRecords_create (reveals : Reveals T) (value : Option String) (field : Field)
    (key : String) : handedRecords (reveals.create value field key).events = [] := by
  simp only [create, Policy.look, Logged.events_bind]
  split <;> rfl

end Reveal.Reveals

namespace Display.Session

variable [Timeline T]

/-- On reveals that mask the field too, the key then holds a handle of the
value, revealed until the deadline that starts now. -/
theorem revealAt_timed (session : Session T) {field : Field} {pattern : Pattern} {raw : String}
    (hmasks : session.reveals.policy.Masks field pattern (some raw) raw) (key : String) :
    ∃ handle, (session.revealAt raw field key).answer.reveals.get? key = some handle ∧
      handle.raw = raw ∧ handle.visibility =
        .revealed (Timeline.after session.desk.now handle.durationMs) := by
  cases hown : session.handleFor? key raw with
  | some handle =>
      obtain ⟨hhandle, hraw⟩ := (session.handleFor?_eq_some_iff key raw handle).mp hown
      refine ⟨handle.reveal session.desk.now, ?_, hraw, rfl⟩
      rw [revealAt_of_handle hhandle hraw, reveals_withReveals]
      exact Reveals.get?_setHandle hhandle
  | none =>
      have hnew := (session.handleFor?_eq_none_iff key raw).mp hown
      let made : TimedHandle T :=
        ⟨raw, field.mask pattern raw, session.reveals.durationMs, .hidden⟩
      refine ⟨made.reveal session.desk.now, ?_, rfl, rfl⟩
      rw [revealAt_of_new hnew hmasks, reveals_withReveals]
      exact Reveals.get?_setHandle (Reveals.get?_store ..)

end Display.Session

end ContactPrivacy
