import DartClient.Text.Quoted
import DartClient.Text.Utf8

/-!
# Hexadecimal bytes

Two digits a byte. Writing uses lower case, reading takes both cases.

## Main definitions

* `Hex.encode`, `Hex.decode`: bytes to text and back.
* `Hex.Fault.message`: the wording of a refusal.
-/

namespace DartClient.Text.Hex

/-- The lower case digit of a number below sixteen. -/
def digit (n : Nat) : Char := Nat.digitChar n

/-- The digits of a byte string. -/
def encode (bytes : List UInt8) : String :=
  String.ofList (bytes.flatMap fun b => [digit (b.toNat / 16), digit (b.toNat % 16)])

/-- Why a text is not a byte string. -/
inductive Fault where
  /-- The digits do not come in pairs. -/
  | oddLength
  /-- A byte of the text that is no digit, and its index. -/
  | badDigit (byte : UInt8) (index : Nat)
  deriving DecidableEq, Repr

/-- The wording of a fault. -/
def Fault.message : Fault → String
  | .oddLength => "Odd number of digits"
  | .badDigit byte index =>
    "Invalid character " ++ quoteChar (Char.ofNat byte.toNat) ++ " at position " ++ toString index

/-- The value of a digit. -/
def digitValue? (b : UInt8) : Option Nat :=
  if 0x30 ≤ b && b ≤ 0x39 then some (b.toNat - 0x30)
  else if 0x61 ≤ b && b ≤ 0x66 then some (b.toNat - 0x57)
  else if 0x41 ≤ b && b ≤ 0x46 then some (b.toNat - 0x37)
  else none

/-- The bytes written by pairs of digits, of which the first stands at `index`. -/
def decodePairs (index : Nat) : List UInt8 → Except Fault (List UInt8)
  | high :: low :: rest =>
    match digitValue? high, digitValue? low with
    | none, _ => .error (.badDigit high index)
    | _, none => .error (.badDigit low (index + 1))
    | some h, some l => (decodePairs (index + 2) rest).map (UInt8.ofNat (16 * h + l) :: ·)
  | _ => .ok []

/-- The bytes written by a text; an odd length is refused first. -/
def decode (text : String) : Except Fault (List UInt8) :=
  let bytes := Utf8.encode text
  if bytes.length % 2 = 0 then decodePairs 0 bytes else .error .oddLength

end DartClient.Text.Hex
