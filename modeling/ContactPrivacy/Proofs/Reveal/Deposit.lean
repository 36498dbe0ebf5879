/-
What keys were given.  A deposit is the value and the field of the call that
last gave a key its handle; it is told by the calls alone.  The texts of the
handle a key holds are those of its deposit: the raw value, and that value as
the policy shows it for the field of the deposit.
-/
import ContactPrivacy.Proofs.Policy.Masking
import ContactPrivacy.Proofs.Reveal.Entries
import ContactPrivacy.Proofs.Reveal.Timer

namespace ContactPrivacy.Reveal

/-- A value given to a key, and the field it was given as. -/
structure Deposit where
  raw : String
  field : Field
deriving DecidableEq

namespace Deposit

def Masked (policy : Policy) (deposit : Deposit) : Prop :=
  deposit.raw ≠ "" ∧ ∃ pattern, policy.decide deposit.field = .masked pattern

def texts (policy : Policy) (deposit : Deposit) : String × String :=
  (deposit.raw, policy.shown deposit.field deposit.raw)

end Deposit

/-- What each key was last given, as far as it still holds it. -/
abbrev Deposits := String → Option Deposit

namespace Deposits

def empty : Deposits := fun _ => none

def put (deposits : Deposits) (key : String) (deposit : Deposit) : Deposits :=
  fun other => if other = key then some deposit else deposits other

/-- Only a value that the policy masks is kept. -/
def offer (deposits : Deposits) (policy : Policy) (value : Option String) (field : Field)
    (key : String) : Deposits :=
  match policy.decide field, value.filter (· ≠ "") with
  | .masked _, some raw => deposits.put key ⟨raw, field⟩
  | _, _ => deposits

def afterDesk {T : Type} (policy : Policy) (deposits : Deposits) : DeskCall T → Deposits
  | .create value field key _ => deposits.offer policy value field key
  | .clear => empty
  | _ => deposits

@[simp] theorem put_self (deposits : Deposits) (key : String) (deposit : Deposit) :
    deposits.put key deposit key = some deposit := by
  simp [put]

theorem put_of_ne (deposits : Deposits) {key other : String} (deposit : Deposit)
    (hne : other ≠ key) : deposits.put key deposit other = deposits other := by
  simp [put, hne]

theorem offer_masked (deposits : Deposits) {policy : Policy} {field : Field} {pattern : Pattern}
    {value : Option String} {raw : String} (hmasks : policy.Masks field pattern value raw)
    (key : String) : deposits.offer policy value field key = deposits.put key ⟨raw, field⟩ := by
  obtain ⟨rfl, hraw, hdecide⟩ := hmasks
  simp only [offer, hdecide, filter_nonempty hraw]

theorem offer_passes (deposits : Deposits) {policy : Policy} {field : Field}
    {value : Option String} (hpasses : policy.Passes field value) (key : String) :
    deposits.offer policy value field key = deposits := by
  unfold offer
  split
  · next pattern raw hdecide hvalue => exact (hpasses.not_masked hdecide hvalue).elim
  · rfl

end Deposits

variable {T : Type}

namespace TimedHandle

def texts (handle : TimedHandle T) : String × String := (handle.raw, handle.masked)

/-- Nothing that is done with a handle changes its texts. -/
theorem call_texts [Timeline T] (now : T) (handle : TimedHandle T) (call : HandleCall) :
    (handle.call now call).2.texts = handle.texts :=
  congrArg (fun timer => (timer.raw, timer.masked)) (handle.call_timer now call)

end TimedHandle

namespace Reveals

def texts? (reveals : Reveals T) (key : String) : Option (String × String) :=
  (reveals.get? key).map TimedHandle.texts

theorem get?_setHandle {reveals : Reveals T} {key : String} {old new : TimedHandle T}
    (hold : reveals.get? key = some old) : (reveals.setHandle key new).get? key = some new := by
  obtain ⟨entry, hentry, -⟩ := Option.map_eq_some_iff.mp hold
  simp [get?, setHandle, hentry]

theorem get?_setHandle_of_ne (reveals : Reveals T) {key other : String} (hne : other ≠ key)
    (new : TimedHandle T) : (reveals.setHandle key new).get? other = reveals.get? other := by
  unfold setHandle
  split
  · simp only [get?, Assoc.get?_put_of_ne hne]
  · rfl

theorem texts?_setHandle (reveals : Reveals T) {key : String} {old new : TimedHandle T}
    (hold : reveals.get? key = some old) (htexts : new.texts = old.texts) (other : String) :
    (reveals.setHandle key new).texts? other = reveals.texts? other := by
  by_cases hother : other = key
  · rw [hother, texts?, texts?, get?_setHandle hold, hold, Option.map_some, htexts,
      Option.map_some]
  · rw [texts?, get?_setHandle_of_ne reveals hother, texts?]

theorem get?_store (reveals : Reveals T) (key : String) (handle : TimedHandle T) :
    (reveals.store key handle).get? key = some handle := by
  simp [get?, store]

theorem get?_store_of_ne (reveals : Reveals T) {key other : String} (hne : other ≠ key)
    (handle : TimedHandle T) : (reveals.store key handle).get? other = reveals.get? other := by
  simp only [get?, store, Assoc.get?_put_of_ne hne]

theorem texts?_store (reveals : Reveals T) (key : String) (handle : TimedHandle T)
    (other : String) :
    (reveals.store key handle).texts? other =
      if other = key then some handle.texts else reveals.texts? other := by
  by_cases hother : other = key
  · rw [hother, texts?, get?_store, if_pos rfl, Option.map_some]
  · rw [texts?, get?_store_of_ne reveals hother, if_neg hother, texts?]

theorem get?_hideAll (reveals : Reveals T) (key : String) :
    reveals.hideAll.get? key = (reveals.get? key).map TimedHandle.hide := by
  have hstored := Assoc.get?_map
    (fun entry : Entry T => { entry with handle := entry.handle.hide }) key reveals.stored
  change (Assoc.get? key (reveals.stored.map _)).map Entry.handle = _
  rw [hstored, get?]
  cases Assoc.get? key reveals.stored <;> rfl

theorem texts?_hideAll (reveals : Reveals T) (key : String) :
    reveals.hideAll.texts? key = reveals.texts? key := by
  rw [texts?, get?_hideAll, texts?]
  cases reveals.get? key <;> rfl

theorem texts?_clear (reveals : Reveals T) (key : String) : reveals.clear.texts? key = none := rfl

/-- A handle reached by its number is written back to its own entry, so that
only a new handle changes the texts a key shows. -/
theorem texts?_setSerial {reveals : Reveals T} (hnumbered : reveals.Numbered) {serial : Nat}
    {old new : TimedHandle T} (hold : reveals.handle? serial = some old)
    (htexts : new.texts = old.texts) (key : String) :
    (reveals.setSerial serial new).texts? key = reveals.texts? key := by
  have hstored := Assoc.get?_map (Entry.setIf serial new) key reveals.stored
  change ((Assoc.get? key (reveals.stored.map _)).map Entry.handle).map TimedHandle.texts = _
  rw [hstored, texts?, get?]
  cases hentry : Assoc.get? key reveals.stored with
  | none => rfl
  | some entry =>
      by_cases hserial : entry.serial = serial
      · have hmem : entry ∈ reveals.entries :=
          List.mem_append_left _ (Assoc.mem_values_of_get? hentry)
        have hhandle := hnumbered.handle?_eq hmem
        rw [hserial, hold] at hhandle
        have hsame : old = entry.handle := Option.some.inj hhandle
        simp [Entry.setIf, hserial, htexts, hsame]
      · simp [Entry.setIf, hserial]

/-- The invariant of a session's reveals: handles are told apart by number,
and each key shows the texts of its deposit. -/
structure Keeps (reveals : Reveals T) (deposits : Deposits) : Prop where
  numbered : reveals.Numbered
  texts : ∀ key, reveals.texts? key = (deposits key).map (Deposit.texts reveals.policy)
  masked : ∀ key deposit, deposits key = some deposit → deposit.Masked reveals.policy

theorem empty_keeps (policy : Policy) (durationMs : Number) :
    (empty policy durationMs : Reveals T).Keeps Deposits.empty :=
  ⟨empty_numbered policy durationMs, fun _ => rfl, by simp [Deposits.empty]⟩

/-- The handle a key holds, told by the deposit of the key. -/
theorem Keeps.get?_eq_some {reveals : Reveals T} {deposits : Deposits}
    (hkeeps : reveals.Keeps deposits) {key : String} {handle : TimedHandle T}
    (hhandle : reveals.get? key = some handle) :
    ∃ field pattern, deposits key = some ⟨handle.raw, field⟩ ∧ handle.raw ≠ "" ∧
      reveals.policy.decide field = .masked pattern ∧
      handle.masked = field.mask pattern handle.raw := by
  have htexts := hkeeps.texts key
  rw [texts?, hhandle] at htexts
  obtain ⟨deposit, hdeposit, hsame⟩ := Option.map_eq_some_iff.mp htexts.symm
  obtain ⟨hraw, pattern, hdecide⟩ := hkeeps.masked key deposit hdeposit
  obtain ⟨hrawEq, hmaskedEq⟩ := Prod.mk.inj hsame
  refine ⟨deposit.field, pattern, ?_, hrawEq ▸ hraw, hdecide, ?_⟩
  · rw [hdeposit, ← hrawEq]
  · rw [← hmaskedEq, ← hrawEq, Policy.shown, hdecide]

theorem Keeps.get?_eq_none_iff {reveals : Reveals T} {deposits : Deposits}
    (hkeeps : reveals.Keeps deposits) (key : String) :
    reveals.get? key = none ↔ deposits key = none := by
  have htexts := hkeeps.texts key
  rw [texts?] at htexts
  rw [← Option.map_eq_none_iff (f := TimedHandle.texts), htexts, Option.map_eq_none_iff]

theorem Keeps.setHandle {reveals : Reveals T} {deposits : Deposits}
    (hkeeps : reveals.Keeps deposits) {key : String} {old new : TimedHandle T}
    (hold : reveals.get? key = some old) (htexts : new.texts = old.texts) :
    (reveals.setHandle key new).Keeps deposits := by
  have hpolicy : (reveals.setHandle key new).policy = reveals.policy := by
    unfold Reveals.setHandle
    split <;> rfl
  constructor
  · exact setHandle_numbered hkeeps.numbered key new
  · intro other
    rw [hpolicy, texts?_setHandle reveals hold htexts]
    exact hkeeps.texts other
  · rw [hpolicy]
    exact hkeeps.masked

theorem Keeps.setSerial {reveals : Reveals T} {deposits : Deposits}
    (hkeeps : reveals.Keeps deposits) {serial : Nat} {old new : TimedHandle T}
    (hold : reveals.handle? serial = some old) (htexts : new.texts = old.texts) :
    (reveals.setSerial serial new).Keeps deposits := by
  constructor
  · exact setSerial_numbered hkeeps.numbered serial new
  · intro key
    rw [texts?_setSerial hkeeps.numbered hold htexts]
    exact hkeeps.texts key
  · exact hkeeps.masked

theorem Keeps.hideAll {reveals : Reveals T} {deposits : Deposits}
    (hkeeps : reveals.Keeps deposits) : reveals.hideAll.Keeps deposits := by
  constructor
  · exact hideAll_numbered hkeeps.numbered
  · intro key
    rw [texts?_hideAll]
    exact hkeeps.texts key
  · exact hkeeps.masked

theorem Keeps.clear {reveals : Reveals T} {deposits : Deposits}
    (hkeeps : reveals.Keeps deposits) : reveals.clear.Keeps Deposits.empty :=
  ⟨clear_numbered hkeeps.numbered, reveals.texts?_clear, by simp [Deposits.empty]⟩

theorem Keeps.store {reveals : Reveals T} {deposits : Deposits}
    (hkeeps : reveals.Keeps deposits) (key : String) {handle : TimedHandle T}
    {deposit : Deposit} (hmasked : deposit.Masked reveals.policy)
    (htexts : handle.texts = deposit.texts reveals.policy) :
    (reveals.store key handle).Keeps (deposits.put key deposit) := by
  constructor
  · exact store_numbered hkeeps.numbered key handle
  · intro other
    rw [texts?_store]
    change _ = (deposits.put key deposit other).map (Deposit.texts reveals.policy)
    by_cases hother : other = key
    · simp [hother, htexts]
    · rw [Deposits.put_of_ne deposits deposit hother, if_neg hother]
      exact hkeeps.texts other
  · intro other found hfound
    by_cases hother : other = key
    · rw [hother, Deposits.put_self] at hfound
      exact Option.some.inj hfound ▸ hmasked
    · rw [Deposits.put_of_ne deposits deposit hother] at hfound
      exact hkeeps.masked other found hfound

/-- A value that the policy masks gets a new hidden handle at its key. -/
theorem create_masked {reveals : Reveals T} {field : Field} {pattern : Pattern}
    {value : Option String} {raw : String} (hmasks : reveals.policy.Masks field pattern value raw)
    (key : String) :
    (reveals.create value field key).answer = (.timed reveals.made,
      reveals.store key ⟨raw, field.mask pattern raw, reveals.durationMs, .hidden⟩) := by
  obtain ⟨rfl, hraw, hdecide⟩ := hmasks
  simp only [create, Policy.look, Logged.answer_bind, hdecide, filter_nonempty hraw,
    Logged.answer_pure]

/-- A value that passes through the policy is not stored. -/
theorem create_passes {reveals : Reveals T} {field : Field} {value : Option String}
    (hpasses : reveals.policy.Passes field value) (key : String) :
    (reveals.create value field key).answer = (.passthrough value, reveals) := by
  simp only [create, Policy.look, Logged.answer_bind]
  split
  · next pattern raw hdecide hvalue => exact (hpasses.not_masked hdecide hvalue).elim
  · rfl

theorem Keeps.create {reveals : Reveals T} {deposits : Deposits}
    (hkeeps : reveals.Keeps deposits) (value : Option String) (field : Field) (key : String) :
    (reveals.create value field key).answer.2.Keeps
      (deposits.offer reveals.policy value field key) := by
  rcases reveals.policy.passes_or_masks field value with hpasses | ⟨pattern, raw, hmasks⟩
  · rw [create_passes hpasses, deposits.offer_passes hpasses]
    exact hkeeps
  · rw [create_masked hmasks, deposits.offer_masked hmasks]
    obtain ⟨-, hraw, hdecide⟩ := hmasks
    apply hkeeps.store key ⟨hraw, pattern, hdecide⟩
    rw [Deposit.texts, Policy.shown_of_masked hdecide]
    rfl

variable [Timeline T]

theorem Keeps.currentValue {reveals : Reveals T} {deposits : Deposits}
    (hkeeps : reveals.Keeps deposits) (now : T) (key : String) (default : Option String) :
    (reveals.currentValue now key default).2.Keeps deposits := by
  unfold Reveals.currentValue
  split
  · next handle hhandle => exact hkeeps.setHandle hhandle rfl
  · exact hkeeps

theorem Keeps.call {reveals : Reveals T} {deposits : Deposits} (hkeeps : reveals.Keeps deposits)
    (now : T) (ref : HandleRef) (call : HandleCall) {answer : HandleAnswer T}
    {after : Reveals T} (hcall : reveals.call now ref call = some (answer, after)) :
    after.Keeps deposits := by
  cases ref with
  | passthrough raw =>
      obtain ⟨-, rfl⟩ := Prod.mk.inj (Option.some.inj hcall)
      exact hkeeps
  | timed serial =>
      obtain ⟨handle, hhandle, hpair⟩ := Option.map_eq_some_iff.mp hcall
      obtain ⟨-, rfl⟩ := Prod.mk.inj hpair
      exact hkeeps.setSerial hhandle (handle.call_texts now call)

end Reveals

/-- Every call of a desk keeps the deposits that are there after it. -/
theorem Desk.step_keeps [Timeline T] {desk : Desk T} {deposits : Deposits}
    (hkeeps : desk.reveals.Keeps deposits) (call : DeskCall T) :
    (desk.step call).answer.2.reveals.Keeps (deposits.afterDesk desk.reveals.policy call) := by
  cases call with
  | create value field key name => exact hkeeps.create value field key
  | handle name call =>
      simp only [Desk.step, Logged.answer_pure, Desk.callNamed]
      split
      · next answer reveals hcall =>
          obtain ⟨ref, -, hcall⟩ := Option.bind_eq_some_iff.mp hcall
          exact hkeeps.call desk.now ref call hcall
      · exact hkeeps
  | currentValue key default => exact hkeeps.currentValue desk.now key default
  | hideAll => exact hkeeps.hideAll
  | clear => exact hkeeps.clear
  | _ => exact hkeeps

end ContactPrivacy.Reveal
