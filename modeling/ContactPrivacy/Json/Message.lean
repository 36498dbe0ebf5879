/-
The JSON text of a message.  JSON starts with ASCII characters, so the zeros
among the first bytes of a message tell how wide its characters are.
-/
import ContactPrivacy.Json.Reader

namespace ContactPrivacy.Json

/-- How a message writes its characters: in bytes, or in units of two or four
bytes, the high byte first or last. -/
inductive Encoding where
  | utf8
  | utf16 (highFirst : Bool)
  | utf32 (highFirst : Bool)
deriving DecidableEq, Repr

namespace Encoding

/-- The encoding that the first bytes of a message tell. -/
def ofBytes : List Nat → Encoding
  | 0 :: 0 :: _ :: _ :: _ => .utf32 true
  | 0 :: _ :: _ :: _ :: _ => .utf16 true
  | _ :: 0 :: 0 :: 0 :: _ => .utf32 false
  | _ :: 0 :: _ :: _ :: _ => .utf16 false
  | [0, _] => .utf16 true
  | [_, 0] => .utf16 false
  | _ => .utf8

end Encoding

/-- Units of two bytes; a byte left over makes none. -/
def pairBytes? (highFirst : Bool) : List Nat → Option (List Nat)
  | [] => some []
  | [_] => none
  | a :: b :: rest =>
      let unit := if highFirst then a * 256 + b else b * 256 + a
      (pairBytes? highFirst rest).map (unit :: ·)

/-- The characters of units of two bytes. -/
def ofUnits : List Nat → List Char
  | [] => []
  | [unit] => [unitChar unit]
  | first :: second :: rest =>
      if isHighSurrogate first && isLowSurrogate second then
        pairChar first second :: ofUnits rest
      else unitChar first :: ofUnits (second :: rest)

/-- The characters of units of four bytes; larger units than there are code
points make none. -/
def ofWideUnits? (highFirst : Bool) (units : List Nat) : Option (List Char) :=
  match units with
  | [] => some []
  | [_] => none
  | a :: b :: rest =>
      let code := if highFirst then a * 65536 + b else b * 65536 + a
      if code < 0x110000 then (ofWideUnits? highFirst rest).map (unitChar code :: ·) else none

/-- The bytes of a text as it is sent. -/
def sentBytes (s : List Char) : List Nat :=
  s.flatMap fun c => (String.utf8EncodeChar c).map UInt8.toNat

/-- The text a message stands for.  One in bytes may start with a byte order mark. -/
def messageText? (s : List Char) : Option (List Char) :=
  match Encoding.ofBytes (sentBytes s) with
  | .utf8 => some (if s.head? = some '\uFEFF' then s.drop 1 else s)
  | .utf16 highFirst => (pairBytes? highFirst (sentBytes s)).map ofUnits
  | .utf32 highFirst => (pairBytes? highFirst (sentBytes s)).bind (ofWideUnits? highFirst)

/-- Read the text of a message. -/
def readMessage (text : String) : Except ReadError Json :=
  match messageText? text.toList with
  | some s => read s
  | none => .error .undecodable

end ContactPrivacy.Json
