import DartClient.Number.Shortest

/-!
# Texts of doubles

A double is written with its shortest digits, positionally where its decimal exponent lies in a
range and with an exponent elsewhere. Two layouts are in use: one for numbers in documents and one
for values shown in messages.

## Main definitions

* `DoubleLayout`: the choice of digits, the range written positionally and the sign of a positive
  exponent.
* `DoubleLayout.render`: the text of a double.
* `documentLayout`, `valueLayout`: the two layouts.
-/

namespace DartClient.Number

/-- The decisions that a text of a double depends on. -/
structure DoubleLayout where
  /-- Which digits are taken if there are two shortest texts equally near. -/
  tie : Tie
  /-- The least decimal exponent written positionally. -/
  minPositional : Int
  /-- The greatest decimal exponent written positionally. -/
  maxPositional : Int
  /-- Whether a positive exponent carries a sign. -/
  plusSign : Bool

/-- Numbers in documents are positional from the fifth decimal place up to sixteen digits; ties go
to the even digit. -/
def documentLayout : DoubleLayout := ⟨.toEven, -5, 15, true⟩

/-- Values in messages are positional from the fourth decimal place up to sixteen digits; ties go
upward. -/
def valueLayout : DoubleLayout := ⟨.upward, -4, 15, false⟩

/-- A given number of zeros. -/
def zeros (n : Nat) : List Char := List.replicate n '0'

/-- Digits with a decimal point behind the digit of exponent zero; `exponent` is that of the
first digit. -/
def positional (digits : List Char) (exponent : Int) : List Char :=
  if exponent < 0 then '0' :: '.' :: zeros ((-exponent).toNat - 1) ++ digits
  else
    let whole := exponent.toNat + 1
    if digits.length ≤ whole then digits ++ zeros (whole - digits.length) ++ ['.', '0']
    else digits.take whole ++ '.' :: digits.drop whole

/-- Digits with a decimal point behind the first one, and an exponent. -/
def scientific (plusSign : Bool) (digits : List Char) (exponent : Int) : List Char :=
  let fraction := digits.drop 1
  let mantissa := digits.take 1 ++ (if fraction.isEmpty then [] else '.' :: fraction)
  let sign := if exponent < 0 then ['-'] else if plusSign then ['+'] else []
  mantissa ++ 'e' :: sign ++ Nat.toDigits 10 exponent.natAbs

/-- The text of a double. -/
def DoubleLayout.render (layout : DoubleLayout) (x : Double) : String :=
  if x.isNaN then "NaN"
  else
    let sign := if x.isNegative then ['-'] else []
    if x.isInfinite then String.ofList (sign ++ ['i', 'n', 'f'])
    else if x.isZero then String.ofList (sign ++ ['0', '.', '0'])
    else
      let (n, e) := shortestDigits binary64 layout.tie x.magnitude
      let digits := Nat.toDigits 10 n
      let exponent := e + digits.length - 1
      let body :=
        if layout.minPositional ≤ exponent && exponent ≤ layout.maxPositional then
          positional digits exponent
        else scientific layout.plusSign digits exponent
      String.ofList (sign ++ body)

end DartClient.Number
