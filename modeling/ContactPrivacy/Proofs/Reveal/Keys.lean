/-
Runs of calls on a session's reveals, and which keys hold a handle after one.
A key holds a handle if and only if the run gave it one that the keys were not
cleared after, whatever else was done.
-/
import ContactPrivacy.Proofs.Reveal.Terms
import Mathlib.Data.Set.Card

namespace ContactPrivacy

namespace Reveal

/-- What is done with a session's reveals by those who know the keys only. -/
inductive KeyCall where
  | create (value : Option String) (field : Field) (key : String)
  | handle (key : String) (call : HandleCall)
  | hideAll
  | clear
deriving DecidableEq

namespace KeyCall

/-- The one key that a call is about. -/
def key? : KeyCall → Option String
  | .create _ _ key => some key
  | .handle key _ => some key
  | .hideAll | .clear => none

/-- The call gives a key a timed handle. -/
def Gives (policy : Policy) (key : String) (deposit : Deposit) (call : KeyCall) : Prop :=
  call = .create (some deposit.raw) deposit.field key ∧ deposit.Masked policy

end KeyCall

variable {T : Type}

/-- A key was given a timed handle, and the keys have not been cleared since. -/
def Held (policy : Policy) (calls : List (T × KeyCall)) (key : String) : Prop :=
  ∃ before entry since deposit, calls = before ++ entry :: since ∧
    entry.2.Gives policy key deposit ∧ ∀ later ∈ since, later.2 ≠ .clear

/-- The last timed handle that a key was given and still holds, with the calls
that came after it. -/
structure LastGiven (policy : Policy) (calls : List (T × KeyCall)) (key : String)
    (deposit : Deposit) (since : List (T × KeyCall)) : Prop where
  given : ∃ before entry, calls = before ++ entry :: since ∧ entry.2.Gives policy key deposit
  kept : ∀ later ∈ since, later.2 ≠ .clear
  last : ∀ later ∈ since, ∀ other, ¬ later.2.Gives policy key other

theorem LastGiven.masked {policy : Policy} {calls since : List (T × KeyCall)} {key : String}
    {deposit : Deposit} (hgiven : LastGiven policy calls key deposit since) :
    deposit.Masked policy := by
  obtain ⟨before, entry, -, -, hmasked⟩ := hgiven.given
  exact hmasked

theorem LastGiven.since_suffix {policy : Policy} {calls since : List (T × KeyCall)}
    {key : String} {deposit : Deposit} (hgiven : LastGiven policy calls key deposit since) :
    since <:+ calls := by
  obtain ⟨before, entry, rfl, -⟩ := hgiven.given
  exact ⟨before ++ [entry], by simp⟩

theorem not_held_nil (policy : Policy) (key : String) :
    ¬ Held policy ([] : List (T × KeyCall)) key := by
  rintro ⟨before, entry, since, deposit, hcalls, -⟩
  simp at hcalls

theorem held_cons_iff (policy : Policy) (entry : T × KeyCall) (rest : List (T × KeyCall))
    (key : String) :
    Held policy (entry :: rest) key ↔ Held policy rest key ∨
      (∃ deposit, entry.2.Gives policy key deposit) ∧ ∀ later ∈ rest, later.2 ≠ .clear := by
  constructor
  · rintro ⟨before, given, since, deposit, hcalls, hgives, hkept⟩
    cases before with
    | nil =>
        obtain ⟨rfl, rfl⟩ := List.cons.inj hcalls
        exact Or.inr ⟨⟨deposit, hgives⟩, hkept⟩
    | cons _ before =>
        exact Or.inl ⟨before, given, since, deposit, (List.cons.inj hcalls).2, hgives, hkept⟩
  · rintro (⟨before, given, since, deposit, rfl, hgives, hkept⟩ | ⟨⟨deposit, hgives⟩, hkept⟩)
    · exact ⟨entry :: before, given, since, deposit, rfl, hgives, hkept⟩
    · exact ⟨[], entry, rest, deposit, rfl, hgives, hkept⟩

/-- A key that holds a handle was given a last one. -/
theorem exists_lastGiven {policy : Policy} {calls : List (T × KeyCall)} {key : String}
    (hheld : Held policy calls key) :
    ∃ deposit since, LastGiven policy calls key deposit since := by
  induction calls with
  | nil => exact (not_held_nil policy key hheld).elim
  | cons entry rest ih =>
      by_cases hrest : Held policy rest key
      · obtain ⟨deposit, since, ⟨before, given, rfl, hgives⟩, hkept, hlast⟩ := ih hrest
        exact ⟨deposit, since, ⟨entry :: before, given, rfl, hgives⟩, hkept, hlast⟩
      · obtain ⟨⟨deposit, hgives⟩, hkept⟩ :=
          ((held_cons_iff policy entry rest key).mp hheld).resolve_left hrest
        refine ⟨deposit, rest, ⟨[], entry, rfl, hgives⟩, hkept, ?_⟩
        intro later hlater other hother
        obtain ⟨before, since, rfl⟩ := List.append_of_mem hlater
        exact hrest ⟨before, later, since, other, rfl, hother, fun call hcall =>
          hkept call (List.mem_append_right _ (List.mem_cons_of_mem _ hcall))⟩

namespace Reveals

theorem has_eq_true_iff (reveals : Reveals T) (key : String) :
    reveals.has key = true ↔ key ∈ Assoc.keys reveals.stored := by
  rw [has, get?, Option.isSome_map, Assoc.isSome_get?_iff]

/-- Each key is in the list of stored handles once. -/
def Distinct (reveals : Reveals T) : Prop := (Assoc.keys reveals.stored).Nodup

theorem Distinct.setHandle {reveals : Reveals T} (hdistinct : reveals.Distinct) (key : String)
    (handle : TimedHandle T) : (reveals.setHandle key handle).Distinct := by
  unfold Reveals.setHandle
  split
  · exact Assoc.nodup_keys_put hdistinct key _
  · exact hdistinct

/-- The size is the number of keys that hold a handle. -/
theorem Distinct.size_eq_ncard {reveals : Reveals T} (hdistinct : reveals.Distinct) :
    reveals.size = {key | reveals.has key = true}.ncard := by
  have hkeys : {key | reveals.has key = true} =
      ((Assoc.keys reveals.stored).toFinset : Set String) := by
    ext key
    simp [has_eq_true_iff]
  rw [hkeys, Set.ncard_coe_finset, List.toFinset_card_of_nodup hdistinct]
  simp [size, Assoc.keys]

variable [Timeline T]

/-- The reveals after a call at an instant.  Nothing happens at a key that
holds no handle. -/
def perform (reveals : Reveals T) (now : T) : KeyCall → Reveals T
  | .create value field key => (reveals.create value field key).answer.2
  | .handle key call => ((reveals.callKey now key call).map Prod.snd).getD reveals
  | .hideAll => reveals.hideAll
  | .clear => reveals.clear

def performAll (reveals : Reveals T) (calls : List (T × KeyCall)) : Reveals T :=
  calls.foldl (fun reveals entry => reveals.perform entry.1 entry.2) reveals

theorem performAll_cons (reveals : Reveals T) (entry : T × KeyCall)
    (rest : List (T × KeyCall)) :
    reveals.performAll (entry :: rest) = (reveals.perform entry.1 entry.2).performAll rest := rfl

theorem performAll_append (reveals : Reveals T) (before after : List (T × KeyCall)) :
    reveals.performAll (before ++ after) = (reveals.performAll before).performAll after :=
  List.foldl_append

/-- A creation either gives its key a handle or does nothing. -/
theorem perform_create (reveals : Reveals T) (now : T) (value : Option String) (field : Field)
    (key : String) :
    (∃ deposit handle, (KeyCall.create value field key).Gives reveals.policy key deposit ∧
      reveals.perform now (.create value field key) = reveals.store key handle) ∨
    (∀ deposit, ¬ (KeyCall.create value field key).Gives reveals.policy key deposit) ∧
      reveals.perform now (.create value field key) = reveals := by
  rcases reveals.policy.passes_or_masks field value with hpasses | ⟨pattern, raw, hmasks⟩
  · refine Or.inr ⟨?_, by simp only [perform, create_passes hpasses]⟩
    rintro deposit ⟨hcall, hraw, pattern, hdecide⟩
    obtain ⟨rfl, rfl, -⟩ := KeyCall.create.inj hcall
    exact hpasses.not_masked hdecide (filter_nonempty hraw)
  · have hstored := create_masked hmasks key
    obtain ⟨rfl, hraw, hdecide⟩ := hmasks
    exact Or.inl ⟨⟨raw, field⟩, _, ⟨rfl, hraw, pattern, hdecide⟩, congrArg Prod.snd hstored⟩

/-- A call of a handle either finds one and writes it back or does nothing. -/
theorem perform_handle (reveals : Reveals T) (now : T) (key : String) (call : HandleCall) :
    (∃ handle, reveals.get? key = some handle ∧
      reveals.perform now (.handle key call) =
        reveals.setHandle key (handle.call now call).2) ∨
    (reveals.get? key = none ∧ reveals.perform now (.handle key call) = reveals) := by
  cases hhandle : reveals.get? key with
  | none => exact Or.inr ⟨rfl, by simp [perform, callKey, hhandle]⟩
  | some handle => exact Or.inl ⟨handle, rfl, by simp [perform, callKey, hhandle]⟩

/-- A call at a key that holds a handle writes the handle back. -/
theorem perform_handle_of_get? {reveals : Reveals T} {key : String}
    {handle : TimedHandle T} (hhandle : reveals.get? key = some handle) (now : T)
    (call : HandleCall) :
    reveals.perform now (.handle key call) =
      reveals.setHandle key (handle.call now call).2 := by
  rcases reveals.perform_handle now key call with ⟨found, hfound, hafter⟩ | ⟨hnone, -⟩
  · rw [hhandle, Option.some.injEq] at hfound
    rw [hafter, hfound]
  · rw [hhandle] at hnone
    cases hnone

/-- Asking for the current value is a call of the handle, so runs cover it. -/
theorem currentValue_eq_perform (reveals : Reveals T) (now : T) (key : String)
    (default : Option String) :
    (reveals.currentValue now key default).2 = reveals.perform now (.handle key .value) := by
  cases hhandle : reveals.get? key with
  | none => simp only [currentValue, perform, callKey, hhandle, Option.map_none, Option.getD_none]
  | some handle =>
      simp only [currentValue, perform, callKey, hhandle, Option.map_some, Option.getD_some]
      rfl

@[simp] theorem terms_perform (reveals : Reveals T) (now : T) (call : KeyCall) :
    (reveals.perform now call).terms = reveals.terms := by
  cases call with
  | create value field key => exact reveals.terms_create value field key
  | handle key call =>
      rcases reveals.perform_handle now key call with ⟨handle, -, hafter⟩ | ⟨-, hafter⟩
      · rw [hafter, terms_setHandle]
      · rw [hafter]
  | hideAll | clear => rfl

theorem terms_performAll (reveals : Reveals T) (calls : List (T × KeyCall)) :
    (reveals.performAll calls).terms = reveals.terms := by
  induction calls generalizing reveals with
  | nil => rfl
  | cons entry rest ih => rw [performAll_cons, ih, terms_perform]

theorem policy_perform (reveals : Reveals T) (now : T) (call : KeyCall) :
    (reveals.perform now call).policy = reveals.policy :=
  congrArg Prod.fst (reveals.terms_perform now call)

/-- A call about one key leaves the handle of every other key alone. -/
theorem get?_perform_of_ne (reveals : Reveals T) (now : T) {call : KeyCall} {key other : String}
    (hkey : call.key? = some key) (hne : other ≠ key) :
    (reveals.perform now call).get? other = reveals.get? other := by
  cases call with
  | create value field given =>
      obtain rfl := Option.some.inj hkey
      rcases reveals.perform_create now value field given with
        ⟨-, handle, -, hafter⟩ | ⟨-, hafter⟩
      · rw [hafter, get?_store_of_ne reveals hne]
      · rw [hafter]
  | handle called call =>
      obtain rfl := Option.some.inj hkey
      rcases reveals.perform_handle now called call with ⟨handle, -, hafter⟩ | ⟨-, hafter⟩
      · rw [hafter, get?_setHandle_of_ne reveals hne]
      · rw [hafter]
  | hideAll | clear => cases hkey

/-- A creation that gives the key no timed handle leaves the handle of the key alone. -/
theorem get?_perform_create (reveals : Reveals T) (now : T) {value : Option String}
    {field : Field} {given key : String}
    (hgives : ∀ deposit, ¬ (KeyCall.create value field given).Gives reveals.policy key deposit) :
    (reveals.perform now (.create value field given)).get? key = reveals.get? key := by
  by_cases hkey : key = given
  · subst hkey
    rcases reveals.perform_create now value field key with
      ⟨deposit, -, hgiven, -⟩ | ⟨-, hafter⟩
    · exact (hgives deposit hgiven).elim
    · rw [hafter]
  · exact get?_perform_of_ne reveals now rfl hkey

/-- The handle that a key is given: hidden, for the value and its mask. -/
theorem get?_perform_of_gives (reveals : Reveals T) (now : T) {call : KeyCall} {key : String}
    {deposit : Deposit} {pattern : Pattern} (hgives : call.Gives reveals.policy key deposit)
    (hdecide : reveals.policy.decide deposit.field = .masked pattern) :
    (reveals.perform now call).get? key = some ⟨deposit.raw,
      deposit.field.mask pattern deposit.raw, reveals.durationMs, .hidden⟩ := by
  obtain ⟨rfl, hraw, -⟩ := hgives
  simp only [perform, create_masked ⟨rfl, hraw, hdecide⟩, get?_store]

/-- A key holds a handle after a call if the call gives it one, or it held one
before and the call is not the one that takes all keys away. -/
theorem has_perform_iff (reveals : Reveals T) (now : T) (call : KeyCall) (key : String) :
    (reveals.perform now call).has key = true ↔
      (∃ deposit, call.Gives reveals.policy key deposit) ∨
        reveals.has key = true ∧ call ≠ .clear := by
  by_cases hgives : ∃ deposit, call.Gives reveals.policy key deposit
  · obtain ⟨deposit, hgives⟩ := hgives
    obtain ⟨pattern, hdecide⟩ := hgives.2.2
    simp only [has, get?_perform_of_gives reveals now hgives hdecide]
    exact iff_of_true rfl (Or.inl ⟨deposit, hgives⟩)
  · simp only [hgives, false_or]
    cases call with
    | create value field given =>
        rw [not_exists] at hgives
        simp [has, get?_perform_create reveals now hgives]
    | handle other call =>
        by_cases hkey : key = other
        · subst hkey
          rcases reveals.perform_handle now key call with ⟨handle, hhandle, hafter⟩ | ⟨-, hafter⟩
          · simp [has, hafter, hhandle, get?_setHandle hhandle]
          · simp [hafter]
        · have hsame : (reveals.perform now (.handle other call)).get? key = reveals.get? key :=
            get?_perform_of_ne reveals now rfl hkey
          simp [has, hsame]
    | hideAll => simp [perform, has, get?_hideAll]
    | clear => simp [perform, has, get?, Assoc.get?, clear]

/-- A key holds a handle after a run if the run gave it one, or it held one
before, and the keys have not been cleared since. -/
theorem has_performAll_iff (reveals : Reveals T) (calls : List (T × KeyCall)) (key : String) :
    (reveals.performAll calls).has key = true ↔
      Held reveals.policy calls key ∨
        reveals.has key = true ∧ ∀ entry ∈ calls, entry.2 ≠ .clear := by
  induction calls generalizing reveals with
  | nil => simp [performAll, not_held_nil]
  | cons entry rest ih =>
      rw [performAll_cons, ih, policy_perform, has_perform_iff, held_cons_iff,
        List.forall_mem_cons]
      tauto

theorem Distinct.perform {reveals : Reveals T} (hdistinct : reveals.Distinct) (now : T)
    (call : KeyCall) : (reveals.perform now call).Distinct := by
  cases call with
  | create value field key =>
      rcases reveals.perform_create now value field key with
        ⟨-, handle, -, hafter⟩ | ⟨-, hafter⟩
      · rw [hafter]
        exact Assoc.nodup_keys_put hdistinct key _
      · rw [hafter]
        exact hdistinct
  | handle key call =>
      rcases reveals.perform_handle now key call with ⟨handle, -, hafter⟩ | ⟨-, hafter⟩
      · rw [hafter]
        exact hdistinct.setHandle key _
      · rw [hafter]
        exact hdistinct
  | hideAll =>
      have hkeys := Assoc.keys_map
        (fun entry : Entry T => { entry with handle := entry.handle.hide }) reveals.stored
      change (Assoc.keys (reveals.stored.map _)).Nodup
      rw [hkeys]
      exact hdistinct
  | clear => exact List.nodup_nil

theorem Distinct.performAll {reveals : Reveals T} (hdistinct : reveals.Distinct)
    (calls : List (T × KeyCall)) : (reveals.performAll calls).Distinct := by
  induction calls generalizing reveals with
  | nil => exact hdistinct
  | cons entry rest ih => exact ih (hdistinct.perform entry.1 entry.2)

/-- A run on new reveals: a key holds a handle if and only if it was given one
since the keys were last cleared. -/
theorem has_performAll_empty (policy : Policy) (durationMs : Number)
    (calls : List (T × KeyCall)) (key : String) :
    ((empty policy durationMs).performAll calls).has key = true ↔ Held policy calls key := by
  rw [has_performAll_iff]
  simp [empty, has, get?, Assoc.get?]

end Reveals

end Reveal

end ContactPrivacy
