/-
Decimal text of binary64 numbers.  With a fixed number of places the exact value
is rounded once, a tie to the even neighbour.  The shortest text has the fewest
digits that read back to the same word, and of those the ones nearest to the exact
value.
-/
import ContactPrivacy.Binary64

namespace ContactPrivacy.Decimal

/-- A finite number with `places` digits after the point. -/
def fixedText (places : Nat) (x : Binary64) : String :=
  let q := x.magnitude
  let scaled := Binary64.roundHalfEven (q.num.natAbs * Nat.pow 10 places) q.den
  let digits := Nat.toDigits 10 scaled
  let padded := List.replicate (places + 1 - digits.length) '0' ++ digits
  let whole := padded.take (padded.length - places)
  let rest := padded.drop (padded.length - places)
  let sign := if x.isNegative then ['-'] else []
  let tail := if places = 0 then [] else '.' :: rest
  String.ofList (sign ++ whole ++ tail)

/-- The rationals that round to a positive finite number lie between two
bounds, which belong to them iff the significand is even. -/
structure RoundingInterval where
  low : Rat
  high : Rat
  closed : Bool

/-- The lower gap is half as wide at a power of two above the subnormal range. -/
def roundingInterval (x : Binary64) : RoundingInterval :=
  let quarter := Binary64.twoPow (x.exponent - 2)
  let v := x.magnitude
  let narrow := x.fraction == 0 && 1 < x.biasedExponent
  ⟨v - (if narrow then quarter else 2 * quarter), v + 2 * quarter, x.significand % 2 == 0⟩

def RoundingInterval.contains (i : RoundingInterval) (q : Rat) : Bool :=
  if i.closed then i.low ≤ q && q ≤ i.high else i.low < q && q < i.high

/-- Ten to an integer power. -/
def tenPow (e : Int) : Rat :=
  if 0 ≤ e then (Nat.pow 10 e.toNat : Rat) else 1 / (Nat.pow 10 (-e).toNat : Rat)

/-- The number of decimal digits of a positive integer. -/
def digitCount (n : Nat) : Nat := (Nat.toDigits 10 n).length

/-- The least `p` with `q < 10 ^ p`, for a positive `q`. -/
def decimalPoint (q : Rat) : Int :=
  let guess : Int := (digitCount q.num.natAbs : Int) - (digitCount q.den : Int)
  if q < tenPow guess then guess else guess + 1

/-- The point of the grid with step `10 ^ scale` next to `v` that lies in the
interval; of two the nearer, and of two equally near the even one. -/
def nearestOnGrid? (i : RoundingInterval) (v : Rat) (scale : Int) : Option Nat :=
  let step := tenPow scale
  let below := (v / step).floor.toNat
  let above := below + 1
  let down := (below : Rat) * step
  let up := (above : Rat) * step
  match i.contains down, i.contains up with
  | true, true =>
      let left := v - down
      let right := up - v
      if left < right then some below
      else if right < left then some above
      else if below % 2 = 0 then some below else some above
  | true, false => some below
  | false, true => some above
  | false, false => none

/-- Tries ever finer grids; the last, of seventeen digits, always has a hit. -/
def searchGrids (i : RoundingInterval) (v : Rat) (point : Int) (digits : Nat) :
    Nat → Nat × Int
  | 0 => ((v / tenPow (point - 17)).floor.toNat, point - 17)
  | fuel + 1 =>
      match nearestOnGrid? i v (point - digits) with
      | some m => if m = 0 then searchGrids i v point (digits + 1) fuel else (m, point - digits)
      | none => searchGrids i v point (digits + 1) fuel

/-- The shortest digits of a positive finite number and the power of ten of
the last of them. -/
def shortestDigits (x : Binary64) : Nat × Int :=
  let v := x.magnitude
  searchGrids (roundingInterval x) v (decimalPoint v) 1 17

/-- Trailing zeros moved into the power of ten. -/
def stripZeros (m : Nat) (scale : Int) : Nat → Nat × Int
  | 0 => (m, scale)
  | fuel + 1 => if m % 10 = 0 && m ≠ 0 then stripZeros (m / 10) (scale + 1) fuel else (m, scale)

/-- How a number is laid out: positional between two exponents of its leading
digit, both included, else with an exponent of at least so many digits. -/
structure NumberLayout where
  leastPositional : Int
  greatestPositional : Int
  exponentDigits : Nat

/-- Positional from `1e-04` up to below `1e+16`; exponents have two digits. -/
def NumberLayout.plain : NumberLayout := ⟨-4, 15, 2⟩

def padLeft (width : Nat) (digits : List Char) : List Char :=
  List.replicate (width - digits.length) '0' ++ digits

/-- Digits `m · 10 ^ scale` under a layout; a positional text always has a point. -/
def NumberLayout.write (layout : NumberLayout) (m : Nat) (scale : Int) : List Char :=
  let digits := Nat.toDigits 10 m
  let count := digits.length
  let lead := (count : Int) + scale - 1
  if layout.leastPositional ≤ lead && lead ≤ layout.greatestPositional then
    if 0 ≤ scale then digits ++ List.replicate scale.toNat '0' ++ ['.', '0']
    else
      let places := (-scale).toNat
      let padded := padLeft (places + 1) digits
      padded.take (padded.length - places) ++ '.' :: padded.drop (padded.length - places)
  else
    let mantissa :=
      match digits with
      | [] => []
      | [d] => [d]
      | d :: rest => d :: '.' :: rest
    let sign := if lead < 0 then '-' else '+'
    mantissa ++ 'e' :: sign :: padLeft layout.exponentDigits (Nat.toDigits 10 lead.natAbs)

/-- The text of a number: `0.1`, `1.0`, `1e+16`, `-0.0`. -/
def shortestText (x : Binary64) : String :=
  let sign := if x.isNegative then ['-'] else []
  if x.isZero then String.ofList (sign ++ ['0', '.', '0'])
  else if x.isFinite then
    let found := shortestDigits x
    let (m, scale) := stripZeros found.1 found.2 17
    String.ofList (sign ++ NumberLayout.plain.write m scale)
  else if x.isInfinite then String.ofList (sign ++ "inf".toList)
  else "nan"

end ContactPrivacy.Decimal
