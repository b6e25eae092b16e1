import DartClient.Number.Rounding

/-!
# Double precision numbers

A double is its sixty-four bits. Products, quotients and conversions are the exact results rounded
to nearest.

## Main definitions

* `Double`: the bits of a double precision number.
* `Double.toSingle`, `Double.ofSingle`: conversion to and from single precision bits.
* `Double.ofNat`, `Double.mul`, `Double.div`: rounded arithmetic on magnitudes.
-/

namespace DartClient.Number

/-- A double precision number, given by its bits. -/
structure Double where
  /-- Sign, exponent and fraction, from the high end. -/
  bits : UInt64
  deriving DecidableEq, Repr, Inhabited

namespace Double

/-- The bits without the sign. -/
def magnitude (x : Double) : Nat := x.bits.toNat % Nat.pow 2 63

/-- Whether the sign bit is set. -/
def isNegative (x : Double) : Bool := Nat.pow 2 63 ≤ x.bits.toNat

/-- Whether the bits stand for no number. -/
def isNaN (x : Double) : Bool := binary64.infinity < x.magnitude

/-- Whether the number is infinite. -/
def isInfinite (x : Double) : Bool := x.magnitude == binary64.infinity

/-- Whether the number is zero, of either sign. -/
def isZero (x : Double) : Bool := x.magnitude == 0

/-- The double with a given sign and magnitude. -/
def ofMagnitude (negative : Bool) (magnitude : Nat) : Double :=
  ⟨UInt64.ofNat (magnitude + if negative then Nat.pow 2 63 else 0)⟩

/-- The double of the opposite sign. -/
def neg (x : Double) : Double := ofMagnitude (!x.isNegative) x.magnitude

/-- The double nearest to a natural number. -/
def ofNat (n : Nat) : Double := ofMagnitude false (binary64.ofRatio n 1)

/-- The product of two positive doubles. -/
def mul (x y : Double) : Double :=
  let (a, b) := binary64.toRatio x.magnitude
  let (c, d) := binary64.toRatio y.magnitude
  ofMagnitude false (binary64.ofRatio (a * c) (b * d))

/-- The quotient of two positive doubles. -/
def div (x y : Double) : Double :=
  let (a, b) := binary64.toRatio x.magnitude
  let (c, d) := binary64.toRatio y.magnitude
  ofMagnitude false (binary64.ofRatio (a * d) (b * c))

/-- The single precision bits nearest to a double that is a number. -/
def toSingle (x : Double) : Nat :=
  let magnitude :=
    if x.isInfinite then binary32.infinity
    else
      let (num, den) := binary64.toRatio x.magnitude
      binary32.ofRatio num den
  magnitude + if x.isNegative then Nat.pow 2 31 else 0

/-- Whether single precision bits stand for no number. -/
def isSingleNaN (bits : Nat) : Bool := binary32.infinity < bits % Nat.pow 2 31

/-- The double equal to a number in single precision. -/
def ofSingle (bits : Nat) : Double :=
  let magnitude := bits % Nat.pow 2 31
  ofMagnitude (Nat.pow 2 31 ≤ bits) <|
    if magnitude = binary32.infinity then binary64.infinity
    else
      let (num, den) := binary32.toRatio magnitude
      binary64.ofRatio num den

end Double

end DartClient.Number
