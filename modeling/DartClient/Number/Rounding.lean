/-!
# Binary floating point by exact arithmetic

A binary format is given by the widths of its fraction and exponent fields. A positive number is
read as a natural number times a power of two, and a ratio of natural numbers is rounded to the
nearest member of the format, of two equally near ones to the even one. Everything is computed on
natural numbers, so nothing depends on a floating point unit.

## Main definitions

* `roundDiv`: a quotient rounded to the nearest integer, halves to even.
* `BinaryFormat`: the field widths, with `binary32` and `binary64`.
* `BinaryFormat.toRatio`, `BinaryFormat.ofRatio`: from magnitude bits to a ratio and back.
-/

namespace DartClient.Number

/-- The quotient rounded to the nearest integer, with halves to the even neighbour. -/
def roundDiv (num den : Nat) : Nat :=
  let quotient := num / den
  let double := 2 * (num % den)
  if double < den || (double == den && quotient % 2 == 0) then quotient else quotient + 1

/-- The widths of the fields of a binary floating point format. -/
structure BinaryFormat where
  /-- Bits of the fraction field. -/
  fractionBits : Nat
  /-- Bits of the exponent field. -/
  exponentBits : Nat
  deriving DecidableEq, Repr

/-- Single precision. -/
def binary32 : BinaryFormat := ⟨23, 8⟩

/-- Double precision. -/
def binary64 : BinaryFormat := ⟨52, 11⟩

namespace BinaryFormat

variable (format : BinaryFormat)

/-- The bits of the magnitude of infinity; greater magnitudes are not numbers. -/
def infinity : Nat := (Nat.pow 2 format.exponentBits - 1) * Nat.pow 2 format.fractionBits

/-- How far the exponent of the least positive number lies below zero. -/
def depth : Nat := Nat.pow 2 (format.exponentBits - 1) - 2 + format.fractionBits

/-- The significand of a magnitude, and how many times it is doubled past the least exponent. -/
def decompose (magnitude : Nat) : Nat × Nat :=
  let exponent := magnitude / Nat.pow 2 format.fractionBits
  let fraction := magnitude % Nat.pow 2 format.fractionBits
  if exponent = 0 then (fraction, 0) else (Nat.pow 2 format.fractionBits + fraction, exponent - 1)

/-- A finite magnitude as a ratio of natural numbers. -/
def toRatio (magnitude : Nat) : Nat × Nat :=
  let (significand, doublings) := format.decompose magnitude
  (significand * Nat.pow 2 doublings, Nat.pow 2 format.depth)

/-- The magnitude nearest to a ratio; infinity where the ratio is too great. -/
def ofRatio (num den : Nat) : Nat :=
  if num = 0 then 0
  else
    -- in units of the least positive number, the integral part tells the power of two
    let scaled := num * Nat.pow 2 format.depth
    let doublings := Nat.log2 (scaled / den) - format.fractionBits
    let magnitude := doublings * Nat.pow 2 format.fractionBits +
      roundDiv scaled (den * Nat.pow 2 doublings)
    min magnitude format.infinity

end BinaryFormat

end DartClient.Number
