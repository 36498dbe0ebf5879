/-
Identifiers of users and accounts: an integer or a text, never mixed up.
-/
import ContactPrivacy.Validation.Scalar
import ContactPrivacy.Json.Literal

namespace ContactPrivacy

/-- The identifier of a user or an account. -/
inductive Identifier where
  | int (value : Int)
  | text (value : String)
deriving DecidableEq, Repr

namespace Identifier

def toJson : Identifier → Json
  | .int n => Json.int n
  | .text s => .string s

/-- An identifier or null. -/
def toJson? : Option Identifier → Json
  | some id => id.toJson
  | none => .null

/-- The text an identifier is compared by. -/
def literal (id : Option Identifier) : String := (toJson? id).literal

/-- An identifier; a text stays a text, and whole numbers become integers.  A
value that is neither has an issue as integer and one as text. -/
def read : Json → Reading Identifier
  | .number (.int n) => .accepted (.int n)
  | .bool b => .accepted (.int (if b then 1 else 0))
  | .string s => .accepted (.text s)
  | .number (.float x) =>
      match Reading.intOfFloat x with
      | .ok n => .accepted (.int n)
      | .error asInt => neither asInt
  | _ => neither .notInt
where
  neither (asInt : Fault) : Reading Identifier :=
    .rejected [⟨[.key "int"], asInt⟩, ⟨[.key "str"], .notText⟩]

@[simp] theorem read_toJson (id : Identifier) : read id.toJson = .accepted id := by
  cases id <;> rfl

end Identifier

end ContactPrivacy
