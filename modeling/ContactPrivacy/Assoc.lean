/-
Association lists: values by text keys, in the order in which the keys came.
-/

namespace ContactPrivacy

/-- Values by key.  Writing keeps keys apart, so a list built by writing has
each key once. -/
abbrev Assoc (α : Type) := List (String × α)

namespace Assoc

variable {α : Type}

/-- The value of the first entry with a key. -/
def get? (key : String) : Assoc α → Option α
  | [] => none
  | (k, v) :: rest => if k = key then some v else get? key rest

/-- Write an entry: a new key goes to the end, a known one keeps its place. -/
def put (key : String) (value : α) : Assoc α → Assoc α
  | [] => [(key, value)]
  | (k, v) :: rest => if k = key then (k, value) :: rest else (k, v) :: put key value rest

/-- Entries written one after the other. -/
def ofPairs (pairs : List (String × α)) : Assoc α :=
  pairs.foldl (fun entries pair => put pair.1 pair.2 entries) []

def keys (entries : Assoc α) : List String := entries.map Prod.fst

@[simp] theorem get?_put_self (key : String) (value : α) (entries : Assoc α) :
    get? key (put key value entries) = some value := by
  induction entries with
  | nil => simp [put, get?]
  | cons entry rest ih =>
      obtain ⟨k, v⟩ := entry
      by_cases hk : k = key
      · simp [put, get?, hk]
      · simp [put, get?, hk, ih]

theorem get?_put_of_ne {key other : String} (hne : other ≠ key) (value : α)
    (entries : Assoc α) : get? other (put key value entries) = get? other entries := by
  induction entries with
  | nil => simp [put, get?, Ne.symm hne]
  | cons entry rest ih =>
      obtain ⟨k, v⟩ := entry
      by_cases hk : k = key
      · simp [put, get?, hk, Ne.symm hne]
      · simp only [put, hk, if_false, get?, ih]

theorem isSome_get?_iff (key : String) (entries : Assoc α) :
    (get? key entries).isSome = true ↔ key ∈ keys entries := by
  induction entries with
  | nil => simp [get?, keys]
  | cons entry rest ih =>
      by_cases hkey : entry.1 = key
      · simp [get?, keys, hkey]
      · simpa [get?, keys, hkey, Ne.symm hkey] using ih

theorem get?_eq_none_iff (key : String) (entries : Assoc α) :
    get? key entries = none ↔ key ∉ keys entries := by
  rw [← isSome_get?_iff, Bool.not_eq_true, Option.isSome_eq_false_iff, Option.isNone_iff_eq_none]

/-- A key that was there keeps its place; a new one comes last. -/
theorem keys_put (key : String) (value : α) (entries : Assoc α) :
    keys (put key value entries) =
      if key ∈ keys entries then keys entries else keys entries ++ [key] := by
  induction entries with
  | nil => simp [put, keys]
  | cons entry rest ih =>
      obtain ⟨k, v⟩ := entry
      by_cases hk : k = key
      · simp [put, keys, hk]
      · simp only [put, hk, if_false, keys, List.map_cons, List.mem_cons, Ne.symm hk,
          false_or] at ih ⊢
        rw [ih]
        split <;> simp_all

end Assoc

end ContactPrivacy
