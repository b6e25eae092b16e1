import DartClient.Number.Double

/-!
# Shortest decimal digits

The fewest decimal digits from which a double can be read back, and of those the nearest to it.
The doubles around a number bound an interval whose points all round to it; its ends belong to it
exactly when the significand is even. For one digit, two digits and so on the two neighbours of
the number on the decimal grid are tried, and the first grid with a hit wins. A number in the middle
between two hits has two shortest texts of equal right.

## Main definitions

* `Interval`: the points that round to a number, in units in which everything is integral.
* `Tie`: which of two equally near neighbours is taken.
* `shortestDigits`: a natural number and a power of ten.
-/

namespace DartClient.Number

/-- The points that round to a magnitude, as ratios over one denominator. -/
structure Interval where
  /-- Numerator of the lower end. -/
  lower : Nat
  /-- Numerator of the number itself. -/
  value : Nat
  /-- Numerator of the upper end. -/
  upper : Nat
  /-- The common denominator. -/
  den : Nat
  /-- Whether the ends round to the number as well. -/
  closed : Bool
  deriving Repr

/-- The points that round to a positive finite magnitude. Below a power of two the next number
is only half as far away, except at the least exponent. -/
def Interval.ofMagnitude (format : BinaryFormat) (magnitude : Nat) : Interval :=
  let (significand, doublings) := format.decompose magnitude
  let unit := Nat.pow 2 doublings
  let value := 4 * significand * unit
  let narrow := significand == Nat.pow 2 format.fractionBits && 0 < doublings
  { lower := value - (if narrow then 1 else 2) * unit
    value := value
    upper := value + 2 * unit
    den := 4 * Nat.pow 2 format.depth
    closed := significand % 2 == 0 }

/-- Whether `n` times `scale` over `scaleDen` lies in the interval. -/
def Interval.contains (i : Interval) (n scale scaleDen : Nat) : Bool :=
  let point := n * scale * i.den
  let lower := i.lower * scaleDen
  let upper := i.upper * scaleDen
  if i.closed then lower ≤ point && point ≤ upper else lower < point && point < upper

/-- The power of ten as a ratio. -/
def tenPower (e : Int) : Nat × Nat :=
  if 0 ≤ e then (Nat.pow 10 e.toNat, 1) else (1, Nat.pow 10 (-e).toNat)

/-- Which of two neighbours on a decimal grid is taken by a number in the middle between them. -/
inductive Tie where
  /-- The one with an even last digit. -/
  | toEven
  /-- The greater one. -/
  | upward
  deriving DecidableEq, Repr

/-- Whether the lower neighbour is taken, given that it is `below` units of the grid. -/
def Tie.takesLower (tie : Tie) (below : Nat) : Bool :=
  match tie with
  | toEven => below % 2 == 0
  | upward => false

/-- The neighbour of the number on the grid of multiples of ten to the `e` that lies in the
interval; the nearer one if both do. -/
def Interval.onGrid? (i : Interval) (tie : Tie) (e : Int) : Option Nat :=
  let (scale, scaleDen) := tenPower e
  let below := i.value * scaleDen / (i.den * scale)
  let gap := i.value * scaleDen - below * i.den * scale
  let below? := 0 < below && i.contains below scale scaleDen
  let above? := i.contains (below + 1) scale scaleDen
  match below?, above? with
  | true, true =>
    let whole := i.den * scale
    if 2 * gap < whole || (2 * gap == whole && tie.takesLower below) then some below
    else some (below + 1)
  | true, false => some below
  | false, true => some (below + 1)
  | false, false => none

/-- The exponent of the first decimal digit of a positive ratio. -/
def decimalExponent (num den : Nat) : Int :=
  if den ≤ num then ((Nat.toDigits 10 (num / den)).length : Int) - 1
  else
    let places := (Nat.toDigits 10 (den / num)).length
    -- the quotient has `places` digits, so the ratio lies within one power of ten
    if den ≤ num * Nat.pow 10 (places - 1) then -((places : Int) - 1) else -(places : Int)

/-- The first of the given grids that has a point in the interval. -/
def Interval.firstOnGrid (i : Interval) (tie : Tie) (exponent : Int) : Nat → Nat → Nat × Int
  | digits, 0 =>
    let e := exponent - digits
    let (scale, scaleDen) := tenPower e
    (roundDiv (i.value * scaleDen) (i.den * scale), e)
  | digits, more + 1 =>
    match i.onGrid? tie (exponent - digits) with
    | some n => (n, exponent - digits)
    | none => i.firstOnGrid tie exponent (digits + 1) more

/-- Trailing zeros moved into the power of ten. -/
def stripZeros (n : Nat) (e : Int) : Nat × Int :=
  if h : 0 < n ∧ n % 10 = 0 then stripZeros (n / 10) (e + 1) else (n, e)
  termination_by n
  decreasing_by exact Nat.div_lt_self h.1 (by decide)

/-- The shortest digits of a positive finite magnitude, as a number that does not end in zero
and the power of ten to multiply it with. -/
def shortestDigits (format : BinaryFormat) (tie : Tie) (magnitude : Nat) : Nat × Int :=
  let i := Interval.ofMagnitude format magnitude
  let (n, e) := i.firstOnGrid tie (decimalExponent i.value i.den) 0 17
  stripZeros n e

end DartClient.Number
