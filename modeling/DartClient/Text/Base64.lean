import DartClient.Text.Utf8

/-!
# Base 64

Three bytes as four characters, with the last group padded by `=`. Reading is canonical: the
padding must be complete and the bits that the last character does not need must be zero.

## Main definitions

* `Base64.decode`: the bytes written by a text.
* `Base64.Fault.message`: the wording of a refusal.
-/

namespace DartClient.Text.Base64

/-- Why a text is not a byte string. -/
inductive Fault where
  /-- A byte of the text that may not stand at its index. -/
  | badByte (index : Nat) (byte : UInt8)
  /-- A last group of a single character. -/
  | badLength (length : Nat)
  /-- A last character with bits that no byte needs. -/
  | badLastSymbol (index : Nat) (byte : UInt8)
  /-- A last group that is not padded to four. -/
  | badPadding
  deriving DecidableEq, Repr

/-- The wording of a fault. -/
def Fault.message : Fault → String
  | .badByte index byte =>
    "Invalid symbol " ++ toString byte.toNat ++ ", offset " ++ toString index ++ "."
  | .badLength length => "Invalid input length: " ++ toString length
  | .badLastSymbol index byte =>
    "Invalid last symbol " ++ toString byte.toNat ++ ", offset " ++ toString index ++ "."
  | .badPadding => "Invalid padding"

/-- The padding byte. -/
def pad : UInt8 := 0x3D

/-- The six bits that a byte of the text stands for. -/
def symbolValue? (b : UInt8) : Option Nat :=
  if 0x41 ≤ b && b ≤ 0x5A then some (b.toNat - 0x41)
  else if 0x61 ≤ b && b ≤ 0x7A then some (b.toNat - 0x61 + 26)
  else if 0x30 ≤ b && b ≤ 0x39 then some (b.toNat - 0x30 + 52)
  else if b == 0x2B then some 62
  else if b == 0x2F then some 63
  else none

/-- The bits that a byte stands for, or a fault at its index. -/
def symbolValue (index : Nat) (b : UInt8) : Except Fault Nat :=
  match symbolValue? b with
  | some value => .ok value
  | none => .error (.badByte index b)

/-- The six-bit groups of the last characters, up to padding that nothing follows. The result
also counts the padding; `place` is the place in the group, `padding` the padding so far. -/
def lastGroup (index place : Nat) (padding : Nat) : List UInt8 → Except Fault (List Nat × Nat)
  | [] => .ok ([], padding)
  | b :: rest =>
    if b == pad then
      if place < 2 then .error (.badByte index b)
      else lastGroup (index + 1) (place + 1) (padding + 1) rest
    else if 0 < padding then .error (.badByte (index - padding) pad)
    else do
      let value ← symbolValue index b
      let (values, count) ← lastGroup (index + 1) (place + 1) padding rest
      return (value :: values, count)

/-- The bytes of a last group of two to four values, whose unneeded bits must be zero. -/
def lastBytes (index : Nat) (symbols : List UInt8) (values : List Nat) :
    Except Fault (List UInt8) :=
  let bits := values.foldl (fun n v => n * 64 + v) 0
  let count := values.length * 6 / 8
  let spare := values.length * 6 - count * 8
  if bits % Nat.pow 2 spare = 0 then
    .ok ((List.range count).map fun i =>
      UInt8.ofNat (bits / Nat.pow 2 spare / Nat.pow 256 (count - 1 - i) % 256))
  else .error (.badLastSymbol (index + values.length - 1) (symbols.getD (values.length - 1) 0))

/-- The bytes of the last group, which starts at `index`; it is empty only in an empty text. -/
def decodeLast (index : Nat) (symbols : List UInt8) : Except Fault (List UInt8) := do
  let (values, padding) ← lastGroup index 0 0 symbols
  if symbols.isEmpty then return []
  if values.length < 2 then throw (.badLength (index + values.length))
  if (padding + values.length) % 4 != 0 then throw .badPadding
  lastBytes index symbols values

/-- The bytes of groups of four, of which the last may be short or padded. -/
def decodeGroups (index : Nat) : List UInt8 → Except Fault (List UInt8)
  | a :: b :: c :: d :: e :: rest => do
    let w ← symbolValue index a
    let x ← symbolValue (index + 1) b
    let y ← symbolValue (index + 2) c
    let z ← symbolValue (index + 3) d
    let bits := ((w * 64 + x) * 64 + y) * 64 + z
    let tail ← decodeGroups (index + 4) (e :: rest)
    return UInt8.ofNat (bits / 65536) :: UInt8.ofNat (bits / 256 % 256) ::
      UInt8.ofNat (bits % 256) :: tail
  | symbols => decodeLast index symbols
  termination_by symbols => symbols.length

/-- The bytes written by a text. A stray byte behind complete groups is reported before all
other faults. -/
def decode (text : String) : Except Fault (List UInt8) :=
  let bytes := Utf8.encode text
  match bytes.getLast? with
  | none => .ok []
  | some last =>
    if bytes.length % 4 = 1 && last != pad && (symbolValue? last).isNone then
      .error (.badByte (bytes.length - 1) last)
    else decodeGroups 0 bytes

end DartClient.Text.Base64
