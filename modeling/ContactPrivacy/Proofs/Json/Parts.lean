/-
The parts of a JSON value: the value itself and everything inside it, each with
the way to it.  Of each part its frame can be told, which has the keys of an
object in order and the length of a list, but not what they hold.
-/
import ContactPrivacy.Validation.Issue

namespace ContactPrivacy.Json

/-- What a value is, apart from what its items and members are. -/
inductive Frame where
  | scalar (value : Json)
  | list (length : Nat)
  | object (keys : List String)
deriving Repr

def frame : Json → Frame
  | .list items => .list items.length
  | .object members => .object (Assoc.keys members)
  | .null => .scalar .null
  | .bool b => .scalar (.bool b)
  | .number n => .scalar (.number n)
  | .string s => .scalar (.string s)

/-- A value inside a value, and the steps to it, the last one first. -/
structure Part where
  place : List Step
  value : Json
deriving DecidableEq, Repr

mutual

def partsAt (place : List Step) : Json → List Part
  | .list items => ⟨place, .list items⟩ :: partsOfItems place 0 items
  | .object members => ⟨place, .object members⟩ :: partsOfMembers place members
  | .null => [⟨place, .null⟩]
  | .bool b => [⟨place, .bool b⟩]
  | .number n => [⟨place, .number n⟩]
  | .string s => [⟨place, .string s⟩]

def partsOfItems (place : List Step) (position : Nat) : List Json → List Part
  | [] => []
  | item :: rest =>
      partsAt (.index position :: place) item ++ partsOfItems place (position + 1) rest

def partsOfMembers (place : List Step) : List (String × Json) → List Part
  | [] => []
  | (key, value) :: rest => partsAt (.key key :: place) value ++ partsOfMembers place rest

end

/-- The parts of a value, in document order. -/
def parts (value : Json) : List Part := partsAt [] value

/-- The first of its parts is the value itself. -/
theorem self_mem_partsAt (place : List Step) (value : Json) :
    (⟨place, value⟩ : Part) ∈ partsAt place value := by
  cases value <;> simp [partsAt]

mutual

/-- The way to a part of a value starts with the way to the value. -/
theorem suffix_of_mem_partsAt (place : List Step) : (value : Json) → {part : Part} →
    part ∈ partsAt place value → place <:+ part.place
  | .list items, part, hpart => by
      rcases List.mem_cons.mp hpart with rfl | hinside
      · exact List.suffix_refl place
      · exact suffix_of_mem_partsOfItems place 0 items hinside
  | .object members, part, hpart => by
      rcases List.mem_cons.mp hpart with rfl | hinside
      · exact List.suffix_refl place
      · exact suffix_of_mem_partsOfMembers place members hinside
  | .null, part, hpart | .bool _, part, hpart | .number _, part, hpart
  | .string _, part, hpart => by
      obtain rfl := List.mem_singleton.mp hpart
      exact List.suffix_refl place

theorem suffix_of_mem_partsOfItems (place : List Step) (position : Nat) : (items : List Json) →
    {part : Part} → part ∈ partsOfItems place position items → place <:+ part.place
  | [], part, hpart => by cases hpart
  | item :: rest, part, hpart => by
      rcases List.mem_append.mp hpart with hitem | hrest
      · exact (List.suffix_cons _ place).trans (suffix_of_mem_partsAt _ item hitem)
      · exact suffix_of_mem_partsOfItems place (position + 1) rest hrest

theorem suffix_of_mem_partsOfMembers (place : List Step) : (members : List (String × Json)) →
    {part : Part} → part ∈ partsOfMembers place members → place <:+ part.place
  | [], part, hpart => by cases hpart
  | (key, value) :: rest, part, hpart => by
      rcases List.mem_append.mp hpart with hvalue | hrest
      · exact (List.suffix_cons _ place).trans (suffix_of_mem_partsAt _ value hvalue)
      · exact suffix_of_mem_partsOfMembers place rest hrest

end

end ContactPrivacy.Json
