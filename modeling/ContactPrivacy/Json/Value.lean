/-
JSON values.  Integers are exact and differ from floating point numbers;
objects are lists of members, so that their order is part of the value.  Texts hold
characters, and a surrogate alone is none: a noncharacter stands for it.
-/
import ContactPrivacy.Assoc
import ContactPrivacy.Binary64

namespace ContactPrivacy

/-- A JSON number: an exact integer, or one written with a point or exponent. -/
inductive Number where
  | int (value : Int)
  | float (value : Binary64)
deriving DecidableEq, Repr

/-- A JSON value.  The members of an object come in insertion order. -/
inductive Json where
  | null
  | bool (value : Bool)
  | number (value : Number)
  | string (value : String)
  | list (items : List Json)
  | object (members : List (String × Json))
deriving Repr

/-- The members of an object. -/
abbrev Members := Assoc Json

namespace Json

/-- What stands for a surrogate alone: a code point that no text assigns to anything. -/
def standIn : Char := Char.ofNat 0x10FFFE

def int (n : Int) : Json := .number (.int n)

def float (x : Binary64) : Json := .number (.float x)

mutual

/-- Equality of values is decided by walking both at once. -/
def decEq : (x y : Json) → Decidable (x = y)
  | .null, .null => isTrue rfl
  | .bool a, .bool b =>
      if h : a = b then isTrue (by rw [h]) else isFalse (by simpa using h)
  | .number a, .number b =>
      if h : a = b then isTrue (by rw [h]) else isFalse (by simpa using h)
  | .string a, .string b =>
      if h : a = b then isTrue (by rw [h]) else isFalse (by simpa using h)
  | .list a, .list b =>
      match decEqItems a b with
      | isTrue h => isTrue (by rw [h])
      | isFalse h => isFalse (by simpa using h)
  | .object a, .object b =>
      match decEqMembers a b with
      | isTrue h => isTrue (by rw [h])
      | isFalse h => isFalse (by simpa using h)
  | .null, .bool _ | .null, .number _ | .null, .string _ | .null, .list _ | .null, .object _
  | .bool _, .null | .bool _, .number _ | .bool _, .string _ | .bool _, .list _
  | .bool _, .object _
  | .number _, .null | .number _, .bool _ | .number _, .string _ | .number _, .list _
  | .number _, .object _
  | .string _, .null | .string _, .bool _ | .string _, .number _ | .string _, .list _
  | .string _, .object _
  | .list _, .null | .list _, .bool _ | .list _, .number _ | .list _, .string _
  | .list _, .object _
  | .object _, .null | .object _, .bool _ | .object _, .number _ | .object _, .string _
  | .object _, .list _ => isFalse (by simp)

def decEqItems : (xs ys : List Json) → Decidable (xs = ys)
  | [], [] => isTrue rfl
  | [], _ :: _ => isFalse (by simp)
  | _ :: _, [] => isFalse (by simp)
  | x :: xs, y :: ys =>
      match decEq x y, decEqItems xs ys with
      | isTrue h, isTrue t => isTrue (by rw [h, t])
      | isFalse h, _ => isFalse (by simp [h])
      | _, isFalse t => isFalse (by simp [t])

def decEqMembers : (xs ys : List (String × Json)) → Decidable (xs = ys)
  | [], [] => isTrue rfl
  | [], _ :: _ => isFalse (by simp)
  | _ :: _, [] => isFalse (by simp)
  | (k, x) :: xs, (l, y) :: ys =>
      if hk : k = l then
        match decEq x y, decEqMembers xs ys with
        | isTrue h, isTrue t => isTrue (by rw [hk, h, t])
        | isFalse h, _ => isFalse (by simp [h])
        | _, isFalse t => isFalse (by simp [t])
      else isFalse (by simp [hk])

end

instance : DecidableEq Json := decEq

/-- Null, false, zero and everything empty count as false. -/
def truthy : Json → Bool
  | .null => false
  | .bool b => b
  | .number (.int n) => n != 0
  | .number (.float x) => !x.isZero
  | .string s => s != ""
  | .list items => !items.isEmpty
  | .object members => !members.isEmpty

/-- The text or null. -/
def ofText? : Option String → Json
  | some s => .string s
  | none => .null

def text? : Json → Option String
  | .string s => some s
  | _ => none

def members? : Json → Option Members
  | .object members => some members
  | _ => none

@[simp] theorem text?_string (s : String) : (Json.string s).text? = some s := rfl

@[simp] theorem members?_object (members : Members) :
    (Json.object members).members? = some members := rfl

end Json


end ContactPrivacy
