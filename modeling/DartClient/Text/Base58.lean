import DartClient.Text.Quoted
import DartClient.Text.Utf8

/-!
# Base 58

A byte string as a number in base 58 over digits and letters without `0`, `O`, `I` and `l`. Each
leading zero byte is written as one leading `1`.

## Main definitions

* `Base58.encode`, `Base58.decode`: bytes to text and back.
* `Base58.Fault.message`: the wording of a refusal.
-/

namespace DartClient.Text.Base58

/-- The digits in ascending order of value. -/
def alphabet : List Char :=
  "123456789ABCDEFGHJKLMNPQRSTUVWXYZabcdefghijkmnopqrstuvwxyz".toList

/-- The digits of a number, least significant first; zero has none. -/
def digitsOf (base n : Nat) : List Nat :=
  if _ : 2 ≤ base ∧ 0 < n then n % base :: digitsOf base (n / base) else []
  termination_by n
  decreasing_by exact Nat.div_lt_self (by omega) (by omega)

/-- The number whose digits in a base are given, most significant first. -/
def ofDigits (base : Nat) (digits : List Nat) : Nat :=
  digits.foldl (fun n d => n * base + d) 0

/-- The text of a byte string. -/
def encode (bytes : List UInt8) : String :=
  let zeros := (bytes.takeWhile (· == 0)).map fun _ => '1'
  let digits := (digitsOf 58 (ofDigits 256 (bytes.map UInt8.toNat))).reverse
  String.ofList (zeros ++ digits.map fun d => alphabet.getD d '1')

/-- Why a text is not a byte string. -/
inductive Fault where
  /-- A character outside ASCII whose first byte has this index. -/
  | nonAscii (index : Nat)
  /-- A character that is no digit, and its index. -/
  | badDigit (char : Char) (index : Nat)
  deriving DecidableEq, Repr

/-- The wording of a fault. -/
def Fault.message : Fault → String
  | .nonAscii index =>
    "provided string contained non-ascii character starting at byte " ++ toString index
  | .badDigit char index =>
    "provided string contained invalid character " ++ quoteChar char ++ " at byte " ++
      toString index

/-- The values of the digits of a text, of which the first stands at `index`. -/
def digitValues (index : Nat) : List Char → Except Fault (List Nat)
  | [] => .ok []
  | c :: rest =>
    if 128 ≤ c.toNat then .error (.nonAscii index)
    else match alphabet.findIdx? (· == c) with
      | none => .error (.badDigit c index)
      | some d => (digitValues (index + 1) rest).map (d :: ·)

/-- The bytes written by a text. -/
def decode (text : String) : Except Fault (List UInt8) := do
  let digits ← digitValues 0 text.toList
  let zeros := (digits.takeWhile (· == 0)).map fun _ => (0 : UInt8)
  return zeros ++ ((digitsOf 256 (ofDigits 58 digits)).reverse.map UInt8.ofNat)

end DartClient.Text.Base58
