/-
The kinds of contact data, and the fields that callers ask about.  A field may
also be something else than contact data; it then has the default rule and is
masked like a phone number.
-/
import ContactPrivacy.Json.Literal
import ContactPrivacy.Mask.Phone

namespace ContactPrivacy

/-- A kind of contact data. -/
inductive DataType where
  | email
  | phone
deriving DecidableEq, Repr

namespace DataType

def name : DataType → String
  | .email => "email"
  | .phone => "phone"

/-- The kinds by their names. -/
def byName : List (String × DataType) := [("email", .email), ("phone", .phone)]

def toJson (t : DataType) : Json := .string t.name

def toJson? : Option DataType → Json
  | some t => t.toJson
  | none => .null

end DataType

/-- What a caller asks about: contact data, or whatever else was given. -/
inductive Field where
  | known (dataType : DataType)
  | other (given : Json)
deriving DecidableEq, Repr

namespace Field

def email : Field := .known .email

def phone : Field := .known .phone

/-- The field a caller names. -/
def ofJson : Json → Field
  | .string s =>
      if s = "email" then .known .email
      else if s = "phone" then .known .phone
      else .other (.string s)
  | value => .other value

/-- The field as it was given. -/
def toJson : Field → Json
  | .known t => t.toJson
  | .other given => given

def dataType? : Field → Option DataType
  | .known t => some t
  | .other _ => none

/-- A value masked as the field's kind of data; anything but email counts as phone. -/
def mask (field : Field) (pattern : Pattern) (value : String) : String :=
  match field with
  | .known .email => Mask.email pattern value
  | _ => Mask.phone pattern value

end Field

end ContactPrivacy
