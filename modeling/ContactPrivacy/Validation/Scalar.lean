/-
Readers of plain values.  Booleans and integers are also read from numbers
and texts that can only mean one of them.
-/
import ContactPrivacy.Decimal.Integer
import ContactPrivacy.Text.Class
import ContactPrivacy.Validation.Reading

namespace ContactPrivacy.Reading

/-- Words for true, compared without regard to ASCII case. -/
def trueWords : List String := ["true", "t", "yes", "y", "on", "1"]

/-- Words for false, compared without regard to ASCII case. -/
def falseWords : List String := ["false", "f", "no", "n", "off", "0"]

def lowerAscii (s : String) : String := String.ofList (s.toList.map Char.toLower)

/-- The first integer above those of sixty-four bits, sign included. -/
def wordEnd : Int := Int.pow 2 63

/-- Integers of sixty-four bits, sign included. -/
def fitsWord (n : Int) : Bool := -wordEnd ≤ n && n < wordEnd

/-- The integer a floating point number stands for.  Whole numbers are integers
only strictly between the bounds of sixty-four bits. -/
def intOfFloat (x : Binary64) : Except Fault Int :=
  match x.toInt? with
  | some n => if -wordEnd < n && n < wordEnd then .ok n else .error .longInt
  | none => .error (if x.isFinite then .fractional else .infinite)

/-- A boolean, or a number or word that stands for one. -/
def bool : Json → Reading Bool
  | .bool b => .accepted b
  | .number (.int n) =>
      if n = 0 then .accepted false
      else if n = 1 then .accepted true
      else if fitsWord n then fault .unclearBool
      else fault .notBool
  | .number (.float x) =>
      match intOfFloat x with
      | .ok n =>
          if n = 0 then .accepted false
          else if n = 1 then .accepted true
          else fault .unclearBool
      | .error _ => fault .notBool
  | .string s =>
      if lowerAscii s ∈ trueWords then .accepted true
      else if lowerAscii s ∈ falseWords then .accepted false
      else fault .unclearBool
  | _ => fault .notBool

/-- A text; no other value stands for one. -/
def text : Json → Reading String
  | .string s => .accepted s
  | _ => fault .notText

/-- The integer a text spells, white space around it aside. -/
def intOfText (s : String) : Except Fault Int :=
  match Decimal.readLenient (Text.stripEnds Text.isWhiteSpace s.toList) with
  | .ok n => .ok n
  | .error .unclear => .error .unclearInt
  | .error .tooLong => .error .longInt

/-- A value, or the fault it has. -/
def ofExcept {α : Type} : Except Fault α → Reading α
  | .ok value => .accepted value
  | .error f => fault f

/-- An integer, or a boolean, whole number or text that stands for one. -/
def int : Json → Reading Int
  | .number (.int n) => .accepted n
  | .number (.float x) => ofExcept (intOfFloat x)
  | .bool b => .accepted (if b then 1 else 0)
  | .string s => ofExcept (intOfText s)
  | _ => fault .notInt

/-- One of some named values, by its exact name. -/
def choice {α : Type} (options : List (String × α)) (value : Json) : Reading α :=
  let found :=
    match value with
    | .string s => (options.find? fun option => option.1 == s).map Prod.snd
    | _ => none
  match found with
  | some option => .accepted option
  | none => fault (.notChoice (options.map Prod.fst))

/-- An object as it is. -/
def dictionary : Json → Reading Members := ofObject .notDictionary .accepted

end ContactPrivacy.Reading
