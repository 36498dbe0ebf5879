/-
Looking a value up by keys.  An object that has each key once is told by what
its keys lead to, whatever the order of its members.
-/
import ContactPrivacy.Json.Value
import ContactPrivacy.Proofs.Assoc

namespace ContactPrivacy.Json

/-- The value that keys lead to, from object to object. -/
def at? : List String → Json → Option Json
  | [], value => some value
  | key :: rest, .object members => (Assoc.get? key members).bind (at? rest)
  | _ :: _, _ => none

mutual

/-- Whether every object inside a value has each of its keys once. -/
def hasDistinctKeys : Json → Bool
  | .object members => decide (Assoc.keys members).Nodup && haveDistinctKeysMembers members
  | .list items => haveDistinctKeysItems items
  | .null | .bool _ | .number _ | .string _ => true

def haveDistinctKeysItems : List Json → Bool
  | [] => true
  | item :: rest => hasDistinctKeys item && haveDistinctKeysItems rest

def haveDistinctKeysMembers : List (String × Json) → Bool
  | [] => true
  | (_, value) :: rest => hasDistinctKeys value && haveDistinctKeysMembers rest

end

@[simp] theorem at?_nil (value : Json) : at? [] value = some value := rfl

@[simp] theorem at?_cons_object (key : String) (rest : List String)
    (members : List (String × Json)) :
    at? (key :: rest) (.object members) = (Assoc.get? key members).bind (at? rest) := rfl

/-- One key leads to a member. -/
theorem at?_key (key : String) (members : List (String × Json)) :
    at? [key] (.object members) = Assoc.get? key members := by
  rw [at?_cons_object]
  exact Option.bind_fun_some _

/-- Only in an object does a key lead anywhere. -/
theorem at?_cons_eq_some {key : String} {rest : List String} {value found : Json}
    (hfound : value.at? (key :: rest) = some found) :
    ∃ members child, value = .object members ∧ Assoc.get? key members = some child ∧
      child.at? rest = some found := by
  cases value with
  | object members =>
      rw [at?_cons_object, Option.bind_eq_some_iff] at hfound
      obtain ⟨child, hchild, hrest⟩ := hfound
      exact ⟨members, child, rfl, hchild, hrest⟩
  | _ => cases hfound

theorem haveDistinctKeysItems_iff (items : List Json) :
    haveDistinctKeysItems items = true ↔ ∀ item ∈ items, item.hasDistinctKeys = true := by
  induction items with
  | nil => simp [haveDistinctKeysItems]
  | cons item rest ih => simp [haveDistinctKeysItems, ih]

theorem haveDistinctKeysMembers_iff (members : List (String × Json)) :
    haveDistinctKeysMembers members = true ↔
      ∀ value ∈ Assoc.values members, value.hasDistinctKeys = true := by
  induction members with
  | nil => simp [haveDistinctKeysMembers, Assoc.values]
  | cons member rest ih =>
      obtain ⟨key, value⟩ := member
      rw [haveDistinctKeysMembers, Bool.and_eq_true, ih, Assoc.values_cons,
        List.forall_mem_cons]

theorem hasDistinctKeys_object_iff (members : List (String × Json)) :
    (Json.object members).hasDistinctKeys = true ↔
      (Assoc.keys members).Nodup ∧
        ∀ value ∈ Assoc.values members, value.hasDistinctKeys = true := by
  rw [hasDistinctKeys, Bool.and_eq_true, decide_eq_true_eq, haveDistinctKeysMembers_iff]

/-- An object with distinct keys, and so are those of its members. -/
theorem hasDistinctKeys_object {members : List (String × Json)}
    (hdistinct : (Json.object members).hasDistinctKeys = true) :
    (Assoc.keys members).Nodup ∧
      ∀ key value, Assoc.get? key members = some value → value.hasDistinctKeys = true := by
  obtain ⟨hkeys, hvalues⟩ := (hasDistinctKeys_object_iff members).mp hdistinct
  refine ⟨hkeys, ?_⟩
  intro key value hvalue
  exact hvalues value (Assoc.mem_values_of_get? hvalue)

end ContactPrivacy.Json
