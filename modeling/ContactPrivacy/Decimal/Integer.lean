/-
Decimal digits, and integers written as text.  The plain form is a minus or none
and digits without a leading zero.  The lenient form is brought to the plain one
first: the zeros in front go, with the underscores among them, then a fraction of
zeros, then single underscores.
-/

namespace ContactPrivacy.Decimal

def isDigit (c : Char) : Bool := '0' ≤ c && c ≤ '9'

def digitValue (c : Char) : Nat := c.toNat - '0'.toNat

/-- The number a run of digits stands for. -/
def ofDigits (digits : List Char) : Nat := digits.foldl (fun n c => 10 * n + digitValue c) 0

/-- Integers of more digits are refused, so that reading one stays cheap. -/
def mostDigits : Nat := 4300

/-- Why a text is no integer. -/
inductive IntegerFault where
  | unclear
  | tooLong
deriving DecidableEq, Repr

/-- Digits without a leading zero, behind a number of other characters.  A run
that is too long is at fault whatever follows it. -/
def readDigits (before : Nat) (s : List Char) : Except IntegerFault Nat :=
  let run := s.takeWhile isDigit
  if run.isEmpty || (run.head? == some '0' && s != ['0']) then .error .unclear
  else if mostDigits < before + run.length then .error .tooLong
  else if (s.dropWhile isDigit).isEmpty then .ok (ofDigits run)
  else .error .unclear

/-- An integer in its plain form. -/
def readPlain : List Char → Except IntegerFault Int
  | '-' :: digits => (readDigits 1 digits).map fun n => -(n : Int)
  | digits => (readDigits 0 digits).map fun n => (n : Int)

/-- What is left behind a zero.  Zeros and underscores go up to a digit, to a
minus, or to a point or the end; before these two the last of them stays. -/
def afterZeros (last : Char) : List Char → Option (List Char)
  | [] => some [last]
  | c :: rest =>
      if c = '0' || c = '_' then afterZeros c rest
      else if c = '.' then some (last :: c :: rest)
      else if isDigit c || c = '-' then some (c :: rest)
      else none

/-- A text that starts with a digit, the zeros in front dropped. -/
def dropLeadingZeros? : List Char → Option (List Char)
  | [] => none
  | c :: rest =>
      if c = '0' then afterZeros c rest
      else if isDigit c then some (c :: rest)
      else none

/-- A text without its fraction, if that has zeros only and at least one. -/
def dropZeroFraction (s : List Char) : List Char :=
  match s.dropWhile (· != '.') with
  | _ :: zeros =>
      if !zeros.isEmpty && zeros.all (· == '0') then s.takeWhile (· != '.') else s
  | [] => s

/-- Whether no underscore follows another one. -/
def underscoresApart : List Char → Bool
  | '_' :: '_' :: _ => false
  | _ :: rest => underscoresApart rest
  | [] => true

/-- A text without its underscores, if they stand apart and inside of it. -/
def dropUnderscores (s : List Char) : List Char :=
  if s.head? != some '_' && s.getLast? != some '_' && underscoresApart s then
    s.filter (· != '_')
  else s

/-- An integer in its lenient form, which may have a sign of either kind. -/
def readLenient (s : List Char) : Except IntegerFault Int :=
  let (sign, body) :=
    match s with
    | '-' :: rest => (['-'], rest)
    | '+' :: rest => ([], rest)
    | rest => ([], rest)
  match dropLeadingZeros? body with
  | some digits => readPlain (sign ++ dropUnderscores (dropZeroFraction digits))
  | none => .error .unclear

@[simp] theorem dropUnderscores_nil : dropUnderscores [] = [] := rfl

/-- A text without underscores stays as it is. -/
theorem dropUnderscores_eq_self {s : List Char} (hs : '_' ∉ s) : dropUnderscores s = s := by
  unfold dropUnderscores
  split
  · refine List.filter_eq_self.mpr fun c hc => ?_
    simp only [bne_iff_ne, ne_eq]
    rintro rfl
    exact hs hc
  · rfl

end ContactPrivacy.Decimal
