/-
Reading JSON text.  The first character that cannot belong to a value decides
where a text is at fault; the fault of an unclosed string is its opening quote.
Not-a-number and the infinities are read by their names.  Integers of too many
digits are refused where they stand.
-/
import ContactPrivacy.Decimal.Integer
import ContactPrivacy.Json.Value

namespace ContactPrivacy.Json

open Decimal (isDigit ofDigits)

/-- What stops the reading of a text: a character that cannot come, by how many
are left there, or an integer of too many digits. -/
inductive ReadFault where
  | unexpected (left : Nat)
  | longInteger
deriving DecidableEq, Repr

def faultAt (s : List Char) : ReadFault := .unexpected s.length

def isSpace (c : Char) : Bool := c == ' ' || c == '\t' || c == '\n' || c == '\r'

def skipSpace (s : List Char) : List Char := s.dropWhile isSpace

def hexValue? (c : Char) : Option Nat :=
  if isDigit c then some (Decimal.digitValue c)
  else if 'a' ≤ c && c ≤ 'f' then some (c.toNat - 'a'.toNat + 10)
  else if 'A' ≤ c && c ≤ 'F' then some (c.toNat - 'A'.toNat + 10)
  else none

def hexFour? (a b c d : Char) : Option Nat := do
  return (← hexValue? a) * 4096 + (← hexValue? b) * 256 + (← hexValue? c) * 16 +
    (← hexValue? d)

def isHighSurrogate (n : Nat) : Bool := 0xD800 ≤ n && n < 0xDC00

def isLowSurrogate (n : Nat) : Bool := 0xDC00 ≤ n && n < 0xE000

/-- The character of a code unit, or what stands for a surrogate alone. -/
def unitChar (n : Nat) : Char :=
  if isHighSurrogate n || isLowSurrogate n then standIn else Char.ofNat n

def pairChar (high low : Nat) : Char :=
  Char.ofNat (0x10000 + (high - 0xD800) * 1024 + (low - 0xDC00))

/-- The character behind a backslash, for the escapes of one letter. -/
def simpleEscape? (c : Char) : Option Char :=
  if c = '"' || c = '\\' || c = '/' then some c
  else if c = 'b' then some '\x08'
  else if c = 'f' then some '\x0c'
  else if c = 'n' then some '\n'
  else if c = 'r' then some '\r'
  else if c = 't' then some '\t'
  else none

/-- The code unit of a second escape behind a high surrogate, if one follows
its backslash with text behind it; a bad one is a fault. -/
def secondUnit? (s : List Char) : Option (Except ReadFault Nat) :=
  match s with
  | 'u' :: a :: b :: c :: d :: _ :: rest =>
      match hexFour? a b c d with
      | none => some (.error (.unexpected (rest.length + 6)))
      | some low => some (.ok low)
  | _ => none

/-- The inside of a string up to its closing quote, and the text behind it.
`opening` is the fault of a string that is never closed. -/
def readString (opening : ReadFault) (done : List Char) :
    List Char → Except ReadFault (String × List Char)
  | [] => .error opening
  | '"' :: rest => .ok (String.ofList done.reverse, rest)
  | ['\\'] => .error opening
  | '\\' :: 'u' :: a :: b :: c :: d :: e :: rest =>
      match hexFour? a b c d with
      | none => .error (.unexpected (rest.length + 6))
      | some unit =>
          if isHighSurrogate unit && e = '\\' then
            match secondUnit? rest with
            | none => readString opening (unitChar unit :: done) (e :: rest)
            | some (.error fault) => .error fault
            | some (.ok low) =>
                if isLowSurrogate low then
                  readString opening (pairChar unit low :: done) (rest.drop 5)
                else readString opening (unitChar unit :: done) (e :: rest)
          else readString opening (unitChar unit :: done) (e :: rest)
  | '\\' :: 'u' :: rest => .error (.unexpected (rest.length + 1))
  | '\\' :: c :: rest =>
      match simpleEscape? c with
      | some plain => readString opening (plain :: done) rest
      | none => .error (.unexpected (rest.length + 2))
  | c :: rest =>
      if c.toNat < 0x20 then .error (.unexpected (rest.length + 1))
      else readString opening (c :: done) rest
termination_by s => s.length

/-- The fraction digits behind a point, if at least one follows it. -/
def readFraction (s : List Char) : List Char × List Char :=
  match s with
  | '.' :: d :: rest =>
      if isDigit d then (d :: rest.takeWhile isDigit, rest.dropWhile isDigit) else ([], s)
  | _ => ([], s)

/-- The exponent behind its letter, if it has at least one digit. -/
def readExponent (s : List Char) : Option Int × List Char :=
  match s with
  | mark :: rest =>
      if mark = 'e' || mark = 'E' then
        let negative := rest.head? == some '-'
        let digits := if negative || rest.head? == some '+' then rest.drop 1 else rest
        let run := digits.takeWhile isDigit
        if run.isEmpty then (none, s)
        else
          let n : Int := ofDigits run
          (some (if negative then -n else n), digits.dropWhile isDigit)
      else (none, s)
  | [] => (none, s)

/-- A number: an integer unless a fraction or an exponent follows. -/
def readNumber? (s : List Char) : Option (Except ReadFault (Number × List Char)) :=
  let negative := s.head? == some '-'
  let body := if negative then s.drop 1 else s
  let whole :=
    match body with
    | '0' :: rest => some (['0'], rest)
    | d :: rest =>
        if isDigit d then some (d :: rest.takeWhile isDigit, rest.dropWhile isDigit) else none
    | [] => none
  whole.map fun (digits, rest) =>
    let (fraction, rest) := readFraction rest
    let (exponent, rest) := readExponent rest
    if !fraction.isEmpty || exponent.isSome then
      let scale := exponent.getD 0 - fraction.length
      .ok (.float (Binary64.ofDecimal negative (ofDigits (digits ++ fraction)) scale), rest)
    else if Decimal.mostDigits < digits.length then .error .longInteger
    else
      let n : Int := ofDigits digits
      .ok (.int (if negative then -n else n), rest)

/-- The text behind a word, if the text starts with it. -/
def afterWord? (word : String) (s : List Char) : Option (List Char) :=
  if word.toList.isPrefixOf s then some (s.drop word.length) else none

/-- Values that are written as words. -/
def readWord? (s : List Char) : Option (Json × List Char) :=
  let words : List (String × Json) :=
    [("null", .null), ("true", .bool true), ("false", .bool false),
      ("NaN", .float Binary64.notANumber), ("Infinity", .float (Binary64.infinity false)),
      ("-Infinity", .float (Binary64.infinity true))]
  words.findSome? fun (word, value) => (afterWord? word s).map fun rest => (value, rest)

mutual

/-- The value a text starts with, and the text behind it. -/
def readValue : Nat → List Char → Except ReadFault (Json × List Char)
  | 0, s => .error (faultAt s)
  | fuel + 1, s =>
      match s with
      | '"' :: rest => do
          let (text, rest) ← readString (faultAt s) [] rest
          return (.string text, rest)
      | '[' :: rest =>
          match skipSpace rest with
          | ']' :: rest => .ok (.list [], rest)
          | rest => readItems fuel [] rest
      | '\x7b' :: rest =>
          match skipSpace rest with
          | '\x7d' :: rest => .ok (.object [], rest)
          | rest => readMembers fuel [] rest
      | _ =>
          match readWord? s with
          | some found => .ok found
          | none =>
              match readNumber? s with
              | some found => found.map fun (n, rest) => (.number n, rest)
              | none => .error (faultAt s)

/-- The items of a list from one on, up to the closing bracket. -/
def readItems : Nat → List Json → List Char → Except ReadFault (Json × List Char)
  | 0, _, s => .error (faultAt s)
  | fuel + 1, done, s => do
      let (item, rest) ← readValue fuel s
      match skipSpace rest with
      | ']' :: rest => return (.list (item :: done).reverse, rest)
      | ',' :: rest => readItems fuel (item :: done) (skipSpace rest)
      | rest => .error (faultAt rest)

/-- The members of an object from one on, up to the closing brace. -/
def readMembers :
    Nat → List (String × Json) → List Char → Except ReadFault (Json × List Char)
  | 0, _, s => .error (faultAt s)
  | fuel + 1, done, s =>
      match s with
      | '"' :: rest => do
          let (key, rest) ← readString (faultAt s) [] rest
          match skipSpace rest with
          | ':' :: rest =>
              let (value, rest) ← readValue fuel (skipSpace rest)
              match skipSpace rest with
              | '\x7d' :: rest =>
                  return (.object (Assoc.ofPairs ((key, value) :: done).reverse), rest)
              | ',' :: rest => readMembers fuel ((key, value) :: done) (skipSpace rest)
              | rest => .error (faultAt rest)
          | rest => .error (faultAt rest)
      | _ => .error (faultAt s)

end

/-- Why a text is not read: it is no JSON from a position in characters on, an
integer has too many digits, or its bytes are no text. -/
inductive ReadError where
  | malformed (position : Nat)
  | longInteger
  | undecodable
deriving DecidableEq, Repr

/-- Read a whole text. -/
def read (s : List Char) : Except ReadError Json :=
  let result := do
    let (value, rest) ← readValue (2 * s.length + 2) (skipSpace s)
    match skipSpace rest with
    | [] => return value
    | rest => throw (faultAt rest)
  match result with
  | .ok value => .ok value
  | .error (.unexpected left) => .error (.malformed (s.length - left))
  | .error .longInteger => .error .longInteger

end ContactPrivacy.Json
