/-
What writing does to association lists: to the values, to the keys, and to
what each key is found to have.  Lists whose values are related one by one stay
so when related values are written.
-/
import ContactPrivacy.Assoc
import Mathlib.Data.List.Forall2
import Mathlib.Data.List.Induction
import Mathlib.Data.List.Nodup
import Mathlib.Data.List.Perm.Basic

namespace ContactPrivacy.Assoc

variable {α β : Type}

def values (entries : Assoc α) : List α := entries.map Prod.snd

theorem values_cons (entry : String × α) (rest : Assoc α) :
    values (entry :: rest) = entry.2 :: values rest := rfl

theorem get?_map (f : α → β) (key : String) (entries : Assoc α) :
    get? key (entries.map fun entry => (entry.1, f entry.2)) = (get? key entries).map f := by
  induction entries with
  | nil => rfl
  | cons entry rest ih =>
      by_cases hkey : entry.1 = key
      · simp [get?, hkey]
      · simpa [get?, hkey] using ih

theorem mem_values_of_get? {key : String} {value : α} {entries : Assoc α}
    (hfound : get? key entries = some value) : value ∈ values entries := by
  induction entries with
  | nil => simp [get?] at hfound
  | cons entry rest ih =>
      by_cases hkey : entry.1 = key
      · have hvalue : entry.2 = value := by simpa [get?, hkey] using hfound
        simp [values, hvalue]
      · have hrest : get? key rest = some value := by simpa [get?, hkey] using hfound
        exact List.mem_cons_of_mem _ (ih hrest)

/-- Writing adds the new value and takes the one it replaces out. -/
theorem values_put_perm (key : String) (value : α) (entries : Assoc α) :
    (values (put key value entries) ++ (get? key entries).toList).Perm
      (value :: values entries) := by
  induction entries with
  | nil => simp [put, get?, values]
  | cons entry rest ih =>
      obtain ⟨k, old⟩ := entry
      by_cases hkey : k = key
      · simp [put, get?, values, hkey]
      · simp only [put, get?, hkey, if_false, values, List.map_cons, List.cons_append] at ih ⊢
        exact (ih.cons old).trans (List.Perm.swap value old _)

theorem mem_values_put {key : String} {value other : α} {entries : Assoc α}
    (hother : other ∈ values (put key value entries)) : other = value ∨ other ∈ values entries := by
  have hwritten := (values_put_perm key value entries).mem_iff.mp (List.mem_append_left _ hother)
  exact List.mem_cons.mp hwritten

/-- What is told of the values does not change where the new value is told as the old one was. -/
theorem map_values_put {key : String} {old new : α} {entries : Assoc α} (f : α → β)
    (hold : get? key entries = some old) (hsame : f new = f old) :
    (values (put key new entries)).map f = (values entries).map f := by
  induction entries with
  | nil => simp [get?] at hold
  | cons entry rest ih =>
      obtain ⟨k, value⟩ := entry
      by_cases hkey : k = key
      · have hvalue : value = old := by simpa [get?, hkey] using hold
        simp [put, values, hkey, hvalue, hsame]
      · have hrest : get? key rest = some old := by simpa [get?, hkey] using hold
        simpa [put, values, hkey] using ih hrest

/-- A new key comes last. -/
theorem put_of_get?_eq_none {key : String} {entries : Assoc α}
    (hfree : get? key entries = none) (value : α) :
    put key value entries = entries ++ [(key, value)] := by
  induction entries with
  | nil => rfl
  | cons entry rest ih =>
      by_cases hkey : entry.1 = key
      · simp [get?, hkey] at hfree
      · have hrest : get? key rest = none := by simpa [get?, hkey] using hfree
        simp [put, hkey, ih hrest]

theorem keys_map (f : α → β) (entries : Assoc α) :
    keys (entries.map fun entry => (entry.1, f entry.2)) = keys entries := by
  simp [keys]

/-- Writing keeps keys apart. -/
theorem nodup_keys_put {entries : Assoc α} (hdistinct : (keys entries).Nodup) (key : String)
    (value : α) : (keys (put key value entries)).Nodup := by
  rw [keys_put]
  split
  · exact hdistinct
  · next hnew =>
      rw [List.nodup_append_comm]
      exact List.nodup_cons.mpr ⟨by simpa using hnew, hdistinct⟩

theorem ofPairs_concat (pairs : List (String × α)) (key : String) (value : α) :
    ofPairs (pairs ++ [(key, value)]) = put key value (ofPairs pairs) := by
  simp [ofPairs]

/-- Entries written one after the other have distinct keys. -/
theorem nodup_keys_ofPairs (pairs : List (String × α)) : (keys (ofPairs pairs)).Nodup := by
  induction pairs using List.reverseRecOn with
  | nil => exact List.nodup_nil
  | append_singleton pairs pair ih =>
      rw [ofPairs_concat]
      exact nodup_keys_put ih pair.1 pair.2

/-- Entries with distinct keys, written one after the other, stand as they came. -/
theorem ofPairs_of_nodup {pairs : List (String × α)} (hdistinct : (keys pairs).Nodup) :
    ofPairs pairs = pairs := by
  induction pairs using List.reverseRecOn with
  | nil => rfl
  | append_singleton pairs pair ih =>
      rw [keys, List.map_append, List.nodup_append_comm] at hdistinct
      obtain ⟨hnew, hrest⟩ := List.nodup_cons.mp hdistinct
      rw [ofPairs_concat, ih hrest]
      exact put_of_get?_eq_none ((get?_eq_none_iff pair.1 pairs).mpr hnew) pair.2

/-- Lists with the same distinct keys in order, and the same value of each key, are the same. -/
theorem eq_of_get?_eq {first second : Assoc α} (hkeys : keys first = keys second)
    (hdistinct : (keys first).Nodup)
    (hvalues : ∀ key ∈ keys first, get? key first = get? key second) : first = second := by
  induction first generalizing second with
  | nil => exact (List.map_eq_nil_iff.mp hkeys.symm).symm
  | cons entry rest ih =>
      obtain ⟨k, value⟩ := entry
      cases second with
      | nil => cases hkeys
      | cons other others =>
          obtain ⟨l, old⟩ := other
          obtain ⟨rfl, hrest⟩ := List.cons_eq_cons.mp hkeys
          obtain ⟨hnew, hdistinct⟩ := List.nodup_cons.mp hdistinct
          have hvalue : value = old := by
            simpa [get?] using hvalues k List.mem_cons_self
          subst hvalue
          refine congrArg _ (ih hrest hdistinct ?_)
          intro key hkey
          have hne : k ≠ key := fun heq => hnew (heq ▸ hkey)
          simpa [get?, hne] using hvalues key (List.mem_cons_of_mem _ hkey)

theorem mem_values_ofPairs {pairs : List (String × α)} {value : α}
    (hvalue : value ∈ values (ofPairs pairs)) : value ∈ values pairs := by
  induction pairs using List.reverseRecOn with
  | nil => exact hvalue
  | append_singleton pairs pair ih =>
      rw [ofPairs_concat] at hvalue
      rw [values, List.map_append]
      rcases mem_values_put hvalue with rfl | hold
      · exact List.mem_append_right _ List.mem_cons_self
      · exact List.mem_append_left _ (ih hold)

/-- Lists with the same keys in order, and with values that are related. -/
def Related (related : α → β → Prop) (first : Assoc α) (second : Assoc β) : Prop :=
  List.Forall₂ (fun x y => y.1 = x.1 ∧ related x.2 y.2) first second

namespace Related

variable {related : α → β → Prop} {first : Assoc α} {second : Assoc β}

theorem get? (hrelated : Related related first second) (key : String) :
    Option.Rel related (Assoc.get? key first) (Assoc.get? key second) := by
  induction hrelated with
  | nil => exact .none
  | @cons x y _ _ hentry _ ih =>
      obtain ⟨hkey, hvalue⟩ := hentry
      simp only [Assoc.get?, hkey]
      split
      · exact .some hvalue
      · exact ih

theorem put (hrelated : Related related first second) (key : String) {value : α} {other : β}
    (hvalue : related value other) :
    Related related (Assoc.put key value first) (Assoc.put key other second) := by
  induction hrelated with
  | nil => exact .cons ⟨rfl, hvalue⟩ .nil
  | @cons x y _ _ hentry hrest ih =>
      obtain ⟨hkey, hold⟩ := hentry
      simp only [Assoc.put, hkey]
      split
      · exact .cons ⟨rfl, hvalue⟩ hrest
      · exact .cons ⟨rfl, hold⟩ ih

theorem values (hrelated : Related related first second) :
    List.Forall₂ related (Assoc.values first) (Assoc.values second) :=
  List.forall₂_map_left_iff.mpr (List.forall₂_map_right_iff.mpr (hrelated.imp fun _ _ => And.right))

/-- Values that are changed alike stay related. -/
theorem map (hrelated : Related related first second) (change : α → α) (changeOther : β → β)
    (hchange : ∀ x y, related x y → related (change x) (changeOther y)) :
    Related related (first.map fun entry => (entry.1, change entry.2))
      (second.map fun entry => (entry.1, changeOther entry.2)) :=
  List.forall₂_map_left_iff.mpr (List.forall₂_map_right_iff.mpr
    (hrelated.imp fun _ _ hentry => ⟨hentry.1, hchange _ _ hentry.2⟩))

end Related

end ContactPrivacy.Assoc
