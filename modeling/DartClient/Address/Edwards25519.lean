/-!
# Points of the curve edwards25519

Thirty-two bytes are a point of the curve if their low 255 bits are the second coordinate `y` of
one: `x² = (y² - 1) / (d y² + 1)` has a solution modulo `2²⁵⁵ - 19`. The high bit only chooses
between the two solutions.

## Main definitions

* `Edwards25519.isPoint`: whether bytes are a point.
-/

namespace DartClient.Edwards25519

/-- The prime of the field. -/
def prime : Nat := Nat.pow 2 255 - 19

/-- The parameter `d` of the curve, which is `-121665 / 121666`. -/
def curveParameter : Nat :=
  37095705934669439343138083508754565189542113879843219016388785533085940283555

/-- A power modulo a number, by repeated squaring. -/
def powMod (base exponent modulus : Nat) : Nat :=
  if h : exponent = 0 then 1 % modulus
  else
    let half := powMod (base * base % modulus) (exponent / 2) modulus
    if exponent % 2 = 1 then base * half % modulus else half
  termination_by exponent
  decreasing_by exact Nat.div_lt_self (Nat.pos_of_ne_zero h) (by decide)

/-- Whether a number is a square modulo the prime. -/
def isSquare (n : Nat) : Bool := powMod (n % prime) ((prime - 1) / 2) prime ≤ 1

/-- The number whose bytes are given, least significant first. -/
def ofBytes (bytes : List UInt8) : Nat := bytes.foldr (fun b n => b.toNat + 256 * n) 0

/-- Whether bytes are a point of the curve. -/
def isPoint (bytes : List UInt8) : Bool :=
  let y := ofBytes bytes % Nat.pow 2 255 % prime
  let ySquare := y * y % prime
  -- a quotient is a square exactly when the product is one
  isSquare ((ySquare + prime - 1) * (curveParameter * ySquare + 1))

end DartClient.Edwards25519
