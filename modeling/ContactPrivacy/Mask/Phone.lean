/-
Masking of phone numbers.  Only the digits of a number count; at most the last
four are shown.
-/
import ContactPrivacy.Mask.Email

namespace ContactPrivacy.Mask

/-- How many digits stay visible. -/
def visibleDigits : Nat := 4

/-- The last digits of a number, in order. -/
def lastDigits (digits : List Char) : List Char := digits.drop (digits.length - visibleDigits)

/-- The country code is told only for numbers that start with an ASCII one. -/
def countryText (digits : List Char) : List Char :=
  if digits.head? = some '1' then ['+', '1'] else ['+', '*', '*']

def groupStars : List Char := "***-***-".toList

/-- A masked number.  A text without digits stays, except under the complete
pattern, and one of at most four digits shows none of them. -/
def phoneText (pattern : Pattern) (s : List Char) : List Char :=
  if s = [] then []
  else
    match pattern, Text.decimalDigits s with
    | .complete, _ => hidden
    | _, [] => s
    | .minimal, digits =>
        if digits.length ≤ visibleDigits then stars
        else countryText digits ++ ' ' :: (groupStars ++ lastDigits digits)
    | .standard, digits =>
        if digits.length ≤ visibleDigits then stars
        else groupStars ++ lastDigits digits

def phone (pattern : Pattern) (value : String) : String :=
  String.ofList (phoneText pattern value.toList)

@[simp] theorem phone_empty (pattern : Pattern) : phone pattern "" = "" := by
  simp [phone, phoneText]

end ContactPrivacy.Mask
