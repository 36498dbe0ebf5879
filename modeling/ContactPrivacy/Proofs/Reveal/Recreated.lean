/-
What a creation leaves at its key.  A value that the policy masks gives the key
a new handle, whatever the key held before.  Every other value passes through
and leaves the key alone, so that a key which held a handle goes on showing the
value of an earlier creation.
-/
import ContactPrivacy.Proofs.Reveal.Trace
import ContactPrivacy.Proofs.Reveal.Uniform

namespace ContactPrivacy

/-- A policy takes a value under a field if the value is not empty and the field
is masked. -/
def Policy.takes (policy : Policy) (field : Field) (value : Option String) : Bool :=
  value.any (· ≠ "") && (policy.decide field).shouldMask

theorem Policy.Masks.takes {policy : Policy} {field : Field} {pattern : Pattern}
    {value : Option String} {raw : String} (hmasks : policy.Masks field pattern value raw) :
    policy.takes field value = true := by
  obtain ⟨rfl, hraw, hdecide⟩ := hmasks
  simp [Policy.takes, hraw, hdecide, Decision.shouldMask]

theorem Policy.Passes.not_takes {policy : Policy} {field : Field} {value : Option String}
    (hpasses : policy.Passes field value) : policy.takes field value = false := by
  rcases hpasses with hnone | hunmasked
  · have hempty : value.any (· ≠ "") = false := by
      cases value with
      | none => rfl
      | some raw => simpa [Option.filter_eq_none_iff] using hnone
    rw [Policy.takes, hempty, Bool.false_and]
  · rw [Policy.takes, hunmasked]
    exact Bool.and_false _

namespace Reveal

variable {T : Type} [Timeline T]

/-- The calls of a desk keep what its keys were given. -/
theorem Desk.after_keeps {desk : Desk T} {deposits : Deposits}
    (hkeeps : desk.reveals.Keeps deposits) (calls : List (DeskCall T)) :
    ∃ later, (desk.after calls).reveals.Keeps later := by
  induction calls generalizing desk deposits with
  | nil => exact ⟨deposits, hkeeps⟩
  | cons call rest ih => exact ih (Desk.step_keeps hkeeps call)

namespace Reveals

/-- No key shows the empty text: neither a value that was given to a key nor its
mask is empty. -/
theorem Keeps.currentValue_ne_empty {reveals : Reveals T} {deposits : Deposits}
    (hkeeps : reveals.Keeps deposits) (now : T) {key : String} (hhas : reveals.has key = true)
    (default : Option String) :
    ∃ raw, raw ≠ "" ∧ (reveals.currentValue now key default).1 = some raw := by
  obtain ⟨handle, hhandle⟩ := Option.isSome_iff_exists.mp hhas
  obtain ⟨field, pattern, -, hraw, -, hmasked⟩ := hkeeps.get?_eq_some hhandle
  have hmask : handle.masked ≠ "" := by
    rw [hmasked]
    exact fun hempty => hraw ((field.mask_eq_empty_iff pattern handle.raw).mp hempty)
  refine ⟨(handle.settle now).current, ?_, currentValue_of_get? hhandle now default⟩
  rw [TimedHandle.current]
  split
  · exact hraw
  · exact hmask

/-- A value that is taken shows masked at its key, and by the handle that was made. -/
theorem call_create_of_masks {reveals : Reveals T} (hnumbered : reveals.Numbered) {field : Field}
    {pattern : Pattern} {value : Option String} {raw : String}
    (hmasks : reveals.policy.Masks field pattern value raw) (now : T) (key : String) :
    let made := (reveals.create value field key).answer
    ∃ read, made.2.call now made.1 .value = some (.text (some (field.mask pattern raw)), read) ∧
      ∀ default, (read.currentValue now key default).1 = some (field.mask pattern raw) := by
  intro made
  let handle : TimedHandle T := ⟨raw, field.mask pattern raw, reveals.durationMs, .hidden⟩
  have hmade : made = (.timed reveals.made, reveals.store key handle) := create_masked hmasks key
  have hentry : Assoc.get? key (reveals.store key handle).stored = some ⟨reveals.made, handle⟩ :=
    Assoc.get?_put_self key _ reveals.stored
  have hstored := reveals.get?_store key handle
  have hcall := (store_numbered hnumbered key handle).callKey_eq_call hentry now .value
  refine ⟨(reveals.store key handle).setHandle key handle, ?_, fun default => ?_⟩
  · rw [hmade, ← hcall, callKey, hstored]
    rfl
  · exact currentValue_of_get? (get?_setHandle hstored) now default

/-- What a creation leaves at its key, after any calls.  The handle that comes
back shows its value masked if the policy takes it, and else as it is.  In the
first case the key shows the same.  In the second it shows what it showed before,
so that a creation and its key agree exactly if the value was taken, the key held
no handle, or what it showed happens to be the value. -/
theorem creation_at_key (policy : Policy) (durationMs : Number) (begun : T)
    (calls : List (DeskCall T)) (value : Option String) (field : Field) (key : String) :
    let desk := (Desk.start (empty policy durationMs) begun).after calls
    let shown := fun (reveals : Reveals T) default => (reveals.currentValue desk.now key default).1
    let made := (desk.reveals.create value field key).answer
    ∃ own read, made.2.call desk.now made.1 .value = some (.text own, read) ∧
      (if policy.takes field value then
        own = value.map (policy.shown field) ∧ ∀ default, shown read default = own
      else own = value ∧ ∀ default, shown read default = shown desk.reveals default) ∧
      (shown read own = own ↔
        policy.takes field value = true ∨ desk.reveals.has key = false ∨
          ∃ raw, raw ≠ "" ∧ value = some raw ∧ shown desk.reveals none = some raw) := by
  intro desk shown made
  have hstart : (Desk.start (empty policy durationMs) begun).reveals.Keeps Deposits.empty :=
    empty_keeps policy durationMs
  obtain ⟨deposits, hkeeps⟩ := Desk.after_keeps hstart calls
  have hpolicy : desk.reveals.policy = policy :=
    congrArg Prod.fst ((Desk.start (empty policy durationMs) begun).terms_after calls)
  rcases policy.passes_or_masks field value with hpasses | ⟨pattern, raw, hmasks⟩
  · have hmade : made = (.passthrough value, desk.reveals) :=
      create_passes (hpolicy.symm ▸ hpasses) key
    refine ⟨value, desk.reveals, by rw [hmade]; rfl, ?_, ?_⟩
    · rw [hpasses.not_takes]
      exact ⟨rfl, fun default => rfl⟩
    · rw [hpasses.not_takes]
      cases hhas : desk.reveals.has key with
      | false =>
          refine iff_of_true ?_ (Or.inr (Or.inl rfl))
          exact desk.reveals.currentValue_of_not_has desk.now hhas value
      | true =>
          have hshown : shown desk.reveals value = shown desk.reveals none := by
            obtain ⟨handle, hhandle⟩ := Option.isSome_iff_exists.mp hhas
            exact (currentValue_of_get? hhandle desk.now value).trans
              (currentValue_of_get? hhandle desk.now none).symm
          obtain ⟨raw, hraw, hcurrent⟩ := hkeeps.currentValue_ne_empty desk.now hhas none
          simp only [Bool.false_eq_true, Bool.true_eq_false, false_or, hshown]
          constructor
          · intro hsame
            exact ⟨raw, hraw, hsame.symm.trans hcurrent, hcurrent⟩
          · rintro ⟨raw, -, rfl, hsame⟩
            exact hsame
  · obtain ⟨read, hcall, hread⟩ :=
      call_create_of_masks hkeeps.numbered (hpolicy.symm ▸ hmasks) desk.now key
    have htakes := hmasks.takes
    obtain ⟨rfl, hraw, hdecide⟩ := hmasks
    refine ⟨_, read, hcall, ?_, ?_⟩
    · rw [if_pos htakes, Option.map_some, Policy.shown_of_masked hdecide]
      exact ⟨rfl, hread⟩
    · exact iff_of_true (hread _) (Or.inl htakes)

/-- A contact without an address is shown at the key of one that was revealed:
the handle that comes back has nothing to show, the key still shows the address. -/
theorem creation_without_value_shows_earlier :
    let policy : Policy := ⟨some .default, none⟩
    let value := "john.doe@example.com"
    let desk : Desk Seconds :=
      (Desk.start (empty policy (.int 3000)) (Seconds.ofMs (.int 1000000))).after
        [.create (some value) Field.email "contact" "first", .handle "first" .reveal]
    let made := (desk.reveals.create none Field.email "contact").answer
    ∃ read, made.2.call desk.now made.1 .value = some (.text none, read) ∧
      (read.currentValue desk.now "contact" none).1 = some value := by
  intro policy value desk made
  exact ⟨desk.reveals, rfl, by decide +kernel⟩

end Reveals

end Reveal

end ContactPrivacy
