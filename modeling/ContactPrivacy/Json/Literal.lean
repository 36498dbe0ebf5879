/-
The literal text of a value, the form in which values enter digests, patterns
and log lines.  A string stands for itself; inside a list or an object it is
quoted.
-/
import ContactPrivacy.Json.Writer
import ContactPrivacy.Text.Printable

namespace ContactPrivacy.Json

/-- Lower-case hexadecimal digits, at least `width` of them. -/
def hexPadded (width n : Nat) : List Char :=
  let digits := Nat.toDigits 16 n
  List.replicate (width - digits.length) '0' ++ digits

/-- A character that is not printable, by its code point. -/
def codeEscape (n : Nat) : List Char :=
  if n < 0x100 then '\\' :: 'x' :: hexPadded 2 n
  else if n < 0x10000 then '\\' :: 'u' :: hexPadded 4 n
  else '\\' :: 'U' :: hexPadded 8 n

/-- A character inside quoted text. -/
def literalChar (quote c : Char) : List Char :=
  if c = quote || c = '\\' then ['\\', c]
  else if c = '\n' then ['\\', 'n']
  else if c = '\r' then ['\\', 'r']
  else if c = '\t' then ['\\', 't']
  else if Text.isPrintable c then [c]
  else codeEscape c.toNat

/-- Single quotes, unless the text holds some and no double quotes. -/
def quoteFor (s : List Char) : Char := if '\'' ∈ s && !('"' ∈ s) then '"' else '\''

def quotedLiteral (s : String) : String :=
  let cs := s.toList
  let quote := quoteFor cs
  String.ofList (quote :: (cs.flatMap (literalChar quote) ++ [quote]))

mutual

/-- The text of a value inside a list or an object. -/
def literalMember : Json → String
  | .null => "None"
  | .bool true => "True"
  | .bool false => "False"
  | .number n => numberText n
  | .string s => quotedLiteral s
  | .list items => "[" ++ ", ".intercalate (literalItems items) ++ "]"
  | .object members => "\x7b" ++ ", ".intercalate (literalMembers members) ++ "\x7d"

def literalItems : List Json → List String
  | [] => []
  | item :: rest => literalMember item :: literalItems rest

def literalMembers : List (String × Json) → List String
  | [] => []
  | (key, value) :: rest =>
      (quotedLiteral key ++ ": " ++ literalMember value) :: literalMembers rest

end

/-- The literal text of a value. -/
def literal : Json → String
  | .string s => s
  | value => literalMember value

@[simp] theorem literal_string (s : String) : (Json.string s).literal = s := rfl

end ContactPrivacy.Json
