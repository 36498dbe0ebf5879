/-
Compact JSON text of a value: no spaces, members in order, every finite number so
that it reads back to itself.  JSON has no text for other numbers and no bytes for
a surrogate alone.
-/
import ContactPrivacy.Json.Value
import ContactPrivacy.Decimal.Fraction

namespace ContactPrivacy.Json

/-- Four lower-case hexadecimal digits. -/
def hexFour (n : Nat) : List Char :=
  let digits := Nat.toDigits 16 n
  List.replicate (4 - digits.length) '0' ++ digits

/-- A character inside a JSON string. -/
def escaped (c : Char) : List Char :=
  if c = '"' then ['\\', '"']
  else if c = '\\' then ['\\', '\\']
  else if c.toNat < 0x20 then '\\' :: 'u' :: hexFour c.toNat
  else [c]

def quoted (s : String) : String :=
  String.ofList ('"' :: (s.toList.flatMap escaped ++ ['"']))

def numberText : Number → String
  | .int n => toString n
  | .float x => Decimal.shortestText x

/-- The text of a number in JSON; one that is not finite is written as null. -/
def writtenNumber : Number → String
  | .int n => toString n
  | .float x => if x.isFinite then Decimal.shortestText x else "null"

mutual

/-- The text of a value. -/
def render : Json → String
  | .null => "null"
  | .bool true => "true"
  | .bool false => "false"
  | .number n => writtenNumber n
  | .string s => quoted s
  | .list items => "[" ++ ",".intercalate (renderItems items) ++ "]"
  | .object members => "\x7b" ++ ",".intercalate (renderMembers members) ++ "\x7d"

def renderItems : List Json → List String
  | [] => []
  | item :: rest => render item :: renderItems rest

def renderMembers : List (String × Json) → List String
  | [] => []
  | (key, value) :: rest => (quoted key ++ ":" ++ render value) :: renderMembers rest

end

/-- Whether a text is made of characters only. -/
def isWhole (s : String) : Bool := s.toList.all (· != standIn)

mutual

/-- Whether the text of a value can be sent. -/
def isSendable : Json → Bool
  | .null | .bool _ | .number _ => true
  | .string s => isWhole s
  | .list items => areSendable items
  | .object members => haveSendable members

def areSendable : List Json → Bool
  | [] => true
  | item :: rest => isSendable item && areSendable rest

def haveSendable : List (String × Json) → Bool
  | [] => true
  | (key, value) :: rest => isWhole key && isSendable value && haveSendable rest

end

end ContactPrivacy.Json
