/-
Binary64 floating point numbers as 64-bit words.  A word is decoded to a sign
and an exact rational magnitude; every operation is the exact rational
operation followed by one rounding to nearest, ties to the even word.
-/

namespace ContactPrivacy

/-- A binary64 number by its word: sign, biased exponent and fraction. -/
structure Binary64 where
  bits : UInt64
deriving DecidableEq, Repr

namespace Binary64

/-- The sign bit. -/
def isNegative (x : Binary64) : Bool := x.bits.toNat ≥ Nat.pow 2 63

/-- The word without its sign bit. -/
def unsignedWord (x : Binary64) : Nat := x.bits.toNat % Nat.pow 2 63

def biasedExponent (x : Binary64) : Nat := x.unsignedWord / Nat.pow 2 52

def fraction (x : Binary64) : Nat := x.unsignedWord % Nat.pow 2 52

/-- The words from this one on are infinity and the numbers that are none. -/
def infinityWord : Nat := 2047 * Nat.pow 2 52

def isFinite (x : Binary64) : Bool := x.unsignedWord < infinityWord

def isInfinite (x : Binary64) : Bool := x.unsignedWord == infinityWord

/-- The significand with its leading bit, which subnormal numbers lack. -/
def significand (x : Binary64) : Nat :=
  if x.biasedExponent = 0 then x.fraction else x.fraction + Nat.pow 2 52

/-- The weight of the last bit of the significand is two to this power. -/
def exponent (x : Binary64) : Int :=
  if x.biasedExponent = 0 then -1074 else (x.biasedExponent : Int) - 1075

/-- Two to an integer power. -/
def twoPow (e : Int) : Rat :=
  if 0 ≤ e then (Nat.pow 2 e.toNat : Rat) else 1 / (Nat.pow 2 (-e).toNat : Rat)

/-- The exact absolute value of a finite number. -/
def magnitude (x : Binary64) : Rat := (x.significand : Rat) * twoPow x.exponent

/-- The exact value of a finite number. -/
def toRat (x : Binary64) : Rat := if x.isNegative then -x.magnitude else x.magnitude

def isZero (x : Binary64) : Bool := x.unsignedWord == 0

def signWord (negative : Bool) : Nat := if negative then Nat.pow 2 63 else 0

def infinity (negative : Bool) : Binary64 :=
  ⟨UInt64.ofNat (signWord negative + infinityWord)⟩

def zero (negative : Bool) : Binary64 := ⟨UInt64.ofNat (signWord negative)⟩

/-- The quiet number that is none. -/
def notANumber : Binary64 := ⟨UInt64.ofNat (infinityWord + Nat.pow 2 51)⟩

/-- The integer nearest to `num / den`, the even one of two equally near. -/
def roundHalfEven (num den : Nat) : Nat :=
  let q := num / den
  let twice := 2 * (num % den)
  if twice < den then q
  else if den < twice then q + 1
  else if q % 2 = 0 then q else q + 1

/-- The greatest power of two that is at most the positive quotient `num / den`. -/
def floorLog2 (num den : Nat) : Int :=
  let k : Int := (num.log2 : Int) - (den.log2 : Int)
  if (den : Rat) * twoPow k ≤ (num : Rat) then k else k - 1

/-- The number nearest to a nonnegative quotient.  The rounded significand is
added to the exponent field, so that a carry moves to the next exponent. -/
def ofMagnitude (negative : Bool) (num den : Nat) : Binary64 :=
  if num = 0 then zero negative
  else
    let e : Int := max (floorLog2 num den - 52) (-1074)
    let m :=
      if 0 ≤ e then roundHalfEven num (den * Nat.pow 2 e.toNat)
      else roundHalfEven (num * Nat.pow 2 (-e).toNat) den
    let word := (e + 1074).toNat * Nat.pow 2 52 + m
    if word < infinityWord then ⟨UInt64.ofNat (signWord negative + word)⟩
    else infinity negative

/-- The number nearest to a rational; zero has no sign. -/
def ofRat (q : Rat) : Binary64 := ofMagnitude (q.num < 0) q.num.natAbs q.den

def ofInt (n : Int) : Binary64 := ofMagnitude (n < 0) n.natAbs 1

/-- The number nearest to `± digits · 10 ^ scale`.  Magnitudes beyond the range
are settled from the number of digits. -/
def ofDecimal (negative : Bool) (digits : Nat) (scale : Int) : Binary64 :=
  let top : Int := (digits.log2 : Int) * 30103 / 100000 + scale
  if digits = 0 then zero negative
  else if 400 < top then infinity negative
  else if top < -400 then zero negative
  else if 0 ≤ scale then ofMagnitude negative (digits * Nat.pow 10 scale.toNat) 1
  else ofMagnitude negative digits (Nat.pow 10 (-scale).toNat)

/-- The rounded sum of two finite numbers.  A zero is negative only as the sum
of negative zeros. -/
def add (x y : Binary64) : Binary64 :=
  if x.isZero && y.isZero then zero (x.isNegative && y.isNegative)
  else ofRat (x.toRat + y.toRat)

/-- The rounded quotient of two finite numbers, the divisor not zero.  Its sign
is that of the numbers even where it rounds to zero. -/
def div (x y : Binary64) : Binary64 :=
  let q := x.magnitude / y.magnitude
  ofMagnitude (x.isNegative != y.isNegative) q.num.natAbs q.den

/-- The order of the values of finite numbers. -/
def le (x y : Binary64) : Bool := x.toRat ≤ y.toRat

/-- The integer a finite number without fractional part stands for. -/
def toInt? (x : Binary64) : Option Int :=
  if x.isFinite && x.toRat.den == 1 then some x.toRat.num else none

end Binary64

end ContactPrivacy
