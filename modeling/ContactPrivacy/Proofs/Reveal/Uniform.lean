/-
What holds of every handle that a session's reveals made.  Nothing that is done
with a handle changes its value or how long a reveal of it lasts, so every
handle is of a value that is not empty and lasts as long as the reveals tell.
-/
import ContactPrivacy.Proofs.Reveal.Keys

namespace ContactPrivacy.Reveal

variable {T : Type}

/-- A handle of a value that is not empty, revealed for a duration at a time. -/
def TimedHandle.Lasts (durationMs : Number) (handle : TimedHandle T) : Prop :=
  handle.raw ≠ "" ∧ handle.durationMs = durationMs

theorem TimedHandle.Lasts.call [Timeline T] {durationMs : Number} {handle : TimedHandle T}
    (hlasts : handle.Lasts durationMs) (now : T) (call : HandleCall) :
    (handle.call now call).2.Lasts durationMs := by
  have htimer := handle.call_timer now call
  simp only [timer, Timer.mk.injEq] at htimer
  obtain ⟨hraw, -, hduration⟩ := htimer
  rw [Lasts, hraw, hduration]
  exact hlasts

namespace Reveals

/-- Every handle, whether a key still holds it or not, lasts as long as new ones do. -/
structure Uniform (durationMs : Number) (reveals : Reveals T) : Prop where
  duration_eq : reveals.durationMs = durationMs
  lasts : ∀ entry ∈ reveals.entries, entry.handle.Lasts durationMs

variable {durationMs : Number} {reveals : Reveals T}

theorem empty_uniform (policy : Policy) (durationMs : Number) :
    (empty policy durationMs : Reveals T).Uniform durationMs :=
  ⟨rfl, by simp [empty, entries, Assoc.values]⟩

theorem Uniform.get? (huniform : reveals.Uniform durationMs) {key : String}
    {handle : TimedHandle T} (hhandle : reveals.get? key = some handle) :
    handle.Lasts durationMs := by
  obtain ⟨entry, hentry, rfl⟩ := Option.map_eq_some_iff.mp hhandle
  exact huniform.lasts entry (List.mem_append_left _ (Assoc.mem_values_of_get? hentry))

theorem Uniform.handle? (huniform : reveals.Uniform durationMs) {serial : Nat}
    {handle : TimedHandle T} (hhandle : reveals.handle? serial = some handle) :
    handle.Lasts durationMs := by
  obtain ⟨entry, hentry, rfl⟩ := Option.map_eq_some_iff.mp hhandle
  exact huniform.lasts entry (List.mem_of_find?_eq_some hentry)

theorem Uniform.setHandle (huniform : reveals.Uniform durationMs) (key : String)
    {handle : TimedHandle T} (hlasts : handle.Lasts durationMs) :
    (reveals.setHandle key handle).Uniform durationMs := by
  cases hstored : Assoc.get? key reveals.stored with
  | none =>
      simp only [Reveals.setHandle, hstored]
      exact huniform
  | some entry =>
      simp only [Reveals.setHandle, hstored]
      refine ⟨huniform.duration_eq, ?_⟩
      intro other hother
      rcases List.mem_append.mp hother with hkept | hlost
      · rcases Assoc.mem_values_put hkept with rfl | hold
        · exact hlasts
        · exact huniform.lasts other (List.mem_append_left _ hold)
      · exact huniform.lasts other (List.mem_append_right _ hlost)

theorem Uniform.setSerial (huniform : reveals.Uniform durationMs) (serial : Nat)
    {handle : TimedHandle T} (hlasts : handle.Lasts durationMs) :
    (reveals.setSerial serial handle).Uniform durationMs := by
  refine ⟨huniform.duration_eq, ?_⟩
  intro other hother
  have hwritten : (reveals.setSerial serial handle).entries =
      reveals.entries.map (Entry.setIf serial handle) := by
    simp [Reveals.setSerial, entries, Assoc.values, Function.comp_def]
  rw [hwritten] at hother
  obtain ⟨entry, hentry, rfl⟩ := List.mem_map.mp hother
  rw [Entry.setIf]
  split
  · exact hlasts
  · exact huniform.lasts entry hentry

theorem Uniform.store (huniform : reveals.Uniform durationMs) (key : String)
    {handle : TimedHandle T} (hlasts : handle.Lasts durationMs) :
    (reveals.store key handle).Uniform durationMs := by
  refine ⟨huniform.duration_eq, ?_⟩
  intro other hother
  rcases List.mem_cons.mp ((reveals.store_entries_perm key handle).mem_iff.mp hother) with
    rfl | hold
  · exact hlasts
  · exact huniform.lasts other hold

theorem Uniform.hideAll (huniform : reveals.Uniform durationMs) :
    reveals.hideAll.Uniform durationMs := by
  refine ⟨huniform.duration_eq, ?_⟩
  intro other hother
  rcases List.mem_append.mp hother with hkept | hlost
  · have hhidden : other ∈ (Assoc.values reveals.stored).map
        fun entry => { entry with handle := entry.handle.hide } := by
      simpa [Reveals.hideAll, Assoc.values, Function.comp_def] using hkept
    obtain ⟨entry, hentry, rfl⟩ := List.mem_map.mp hhidden
    exact huniform.lasts entry (List.mem_append_left _ hentry)
  · exact huniform.lasts other (List.mem_append_right _ hlost)

theorem Uniform.clear (huniform : reveals.Uniform durationMs) :
    reveals.clear.Uniform durationMs := by
  have hhidden := huniform.hideAll
  exact ⟨hhidden.duration_eq, hhidden.lasts⟩

theorem Uniform.create (huniform : reveals.Uniform durationMs) (value : Option String)
    (field : Field) (key : String) :
    (reveals.create value field key).answer.2.Uniform durationMs := by
  rcases reveals.policy.passes_or_masks field value with hpasses | ⟨pattern, raw, hmasks⟩
  · rw [create_passes hpasses]
    exact huniform
  · rw [create_masked hmasks]
    obtain ⟨-, hraw, -⟩ := hmasks
    exact huniform.store key ⟨hraw, huniform.duration_eq⟩

variable [Timeline T]

theorem Uniform.perform (huniform : reveals.Uniform durationMs) (now : T) (call : KeyCall) :
    (reveals.perform now call).Uniform durationMs := by
  cases call with
  | create value field key => exact huniform.create value field key
  | handle key call =>
      rcases reveals.perform_handle now key call with ⟨handle, hhandle, hafter⟩ | ⟨-, hafter⟩
      · rw [hafter]
        exact huniform.setHandle key ((huniform.get? hhandle).call now call)
      · rw [hafter]
        exact huniform
  | hideAll => exact huniform.hideAll
  | clear => exact huniform.clear

theorem Uniform.performAll (huniform : reveals.Uniform durationMs)
    (calls : List (T × KeyCall)) : (reveals.performAll calls).Uniform durationMs := by
  induction calls generalizing reveals with
  | nil => exact huniform
  | cons entry rest ih => exact ih (huniform.perform entry.1 entry.2)

theorem Uniform.call (huniform : reveals.Uniform durationMs) (now : T) (ref : HandleRef)
    (call : HandleCall) {answer : HandleAnswer T} {after : Reveals T}
    (hcall : reveals.call now ref call = some (answer, after)) : after.Uniform durationMs := by
  cases ref with
  | passthrough raw =>
      obtain ⟨-, rfl⟩ := Prod.mk.inj (Option.some.inj hcall)
      exact huniform
  | timed serial =>
      obtain ⟨handle, hhandle, hpair⟩ := Option.map_eq_some_iff.mp hcall
      obtain ⟨-, rfl⟩ := Prod.mk.inj hpair
      exact huniform.setSerial serial ((huniform.handle? hhandle).call now call)

end Reveals

namespace Desk

variable [Timeline T]

theorem step_uniform {durationMs : Number} {desk : Desk T}
    (huniform : desk.reveals.Uniform durationMs) (call : DeskCall T) :
    (desk.step call).answer.2.reveals.Uniform durationMs := by
  cases call with
  | create value field key name => exact huniform.create value field key
  | handle name call =>
      simp only [step, Logged.answer_pure, callNamed]
      split
      · next answer reveals hcall =>
          obtain ⟨ref, -, hcall⟩ := Option.bind_eq_some_iff.mp hcall
          exact huniform.call desk.now ref call hcall
      · exact huniform
  | currentValue key default =>
      simp only [step, Logged.answer_pure, Reveals.currentValue_eq_perform]
      exact huniform.perform desk.now (.handle key .value)
  | hideAll => exact huniform.hideAll
  | clear => exact huniform.clear
  | _ => exact huniform

def after (desk : Desk T) (calls : List (DeskCall T)) : Desk T :=
  calls.foldl (fun desk call => (desk.step call).answer.2) desk

theorem after_uniform {durationMs : Number} {desk : Desk T}
    (huniform : desk.reveals.Uniform durationMs) (calls : List (DeskCall T)) :
    (desk.after calls).reveals.Uniform durationMs := by
  induction calls generalizing desk with
  | nil => exact huniform
  | cons call rest ih => exact ih (step_uniform huniform call)

theorem terms_after (desk : Desk T) (calls : List (DeskCall T)) :
    (desk.after calls).reveals.terms = desk.reveals.terms := by
  induction calls generalizing desk with
  | nil => rfl
  | cons call rest ih => exact (ih _).trans (desk.terms_step call)

end Desk

end ContactPrivacy.Reveal
