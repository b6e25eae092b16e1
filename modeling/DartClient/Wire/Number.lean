import DartClient.Number.Double
import DartClient.Wire.Step

/-!
# Numbers on the wire

Integers and floating point numbers are written least significant byte first at the width of
their format. The short integer has seven bits a byte, least significant first, and the high bit
of a byte tells that another one follows.

## Main definitions

* `littleEndian`, `ofLittleEndian`: natural numbers as bytes.
* `writeNumber`, `readNumber`: values in a format.
-/

namespace DartClient

open Idl (NumberFormat)
open Number (Double)

/-- The low bytes of a natural number, least significant first. -/
def littleEndian : Nat → Nat → List UInt8
  | 0, _ => []
  | width + 1, n => UInt8.ofNat (n % 256) :: littleEndian width (n / 256)

/-- The natural number of bytes given least significant first. -/
def ofLittleEndian : List UInt8 → Nat
  | [] => 0
  | b :: bytes => b.toNat + 256 * ofLittleEndian bytes

/-- An integer in two's complement. -/
def twosComplement (width : Nat) (i : Int) : Nat := (i % (Nat.pow 2 (8 * width) : Int)).toNat

/-- The integer of a number in two's complement. -/
def ofTwosComplement (width n : Nat) : Int :=
  if n < Nat.pow 2 (8 * width - 1) then n else (n : Int) - (Nat.pow 2 (8 * width) : Int)

/-- The groups of seven bits of a number, with the mark for a further group. -/
def shortBytes (n : Nat) : List UInt8 :=
  if n < 128 then [UInt8.ofNat n] else UInt8.ofNat (n % 128 + 128) :: shortBytes (n / 128)
  termination_by n
  decreasing_by exact Nat.div_lt_self (by omega) (by decide)

/-! ## Writing -/

/-- Writes an integer without sign. -/
def writeUnsigned (format : NumberFormat) (width : Nat) (value : Value) : Step Unit :=
  match value.unsigned? with
  | none => .fail (.expectedUnsigned format value)
  | some n =>
    if n < Nat.pow 2 (8 * width) then .append (littleEndian width n)
    else .fail (.outOfRange format n)

/-- Writes an integer with a sign. -/
def writeSigned (format : NumberFormat) (width : Nat) (value : Value) : Step Unit :=
  match value.signed? with
  | none => .fail (.expectedSigned format value)
  | some i =>
    let bound : Int := (Nat.pow 2 (8 * width - 1) : Int)
    if -bound ≤ i ∧ i < bound then
      .append (littleEndian width (twosComplement width i))
    else .fail (.outOfRange format i)

/-- Writes a floating point number. -/
def writeFloat (format : NumberFormat) (width : Nat) (bits : Double → Nat) (value : Value) :
    Step Unit :=
  match value with
  | .float x =>
    if x.isNaN then .fail (.writtenNaN format) else .append (littleEndian width (bits x))
  | _ => .fail (.expectedFloat format)

/-- Writes a short integer. -/
def writeShort (value : Value) : Step Unit :=
  match value.unsigned? with
  | none => .fail (.expectedUnsigned .shortU16 value)
  | some n => if n < Nat.pow 2 16 then .append (shortBytes n) else .fail .shortOutOfRange

/-- Writes a number in a format. -/
def writeNumber (format : NumberFormat) (value : Value) : Step Unit :=
  match format with
  | .u8 => writeUnsigned .u8 1 value
  | .u16 => writeUnsigned .u16 2 value
  | .u32 => writeUnsigned .u32 4 value
  | .u64 => writeUnsigned .u64 8 value
  | .u128 => writeUnsigned .u128 16 value
  | .i8 => writeSigned .i8 1 value
  | .i16 => writeSigned .i16 2 value
  | .i32 => writeSigned .i32 4 value
  | .i64 => writeSigned .i64 8 value
  | .i128 => writeSigned .i128 16 value
  | .f32 => writeFloat .f32 4 Double.toSingle value
  | .f64 => writeFloat .f64 8 (fun x => x.bits.toNat) value
  | .shortU16 => writeShort value

/-! ## Reading -/

/-- Reads the bytes of a number; where there are too few, all of them are used up. -/
def takeNumber (format : NumberFormat) (width : Nat) : Step Nat := fun input =>
  if input.length < width then (.error (.endOfInput format), [])
  else (.ok (ofLittleEndian (input.take width)), input.drop width)

/-- Reads an integer without sign. -/
def readUnsigned (format : NumberFormat) (width : Nat) : Step Value := do
  return .unsigned (← takeNumber format width)

/-- Reads an integer with a sign. -/
def readSigned (format : NumberFormat) (width : Nat) : Step Value := do
  return .signed (ofTwosComplement width (← takeNumber format width))

/-- Reads a floating point number, of which `isNaN` tells whether it is none. -/
def readFloat (format : NumberFormat) (width : Nat) (isNaN : Nat → Bool) (ofBits : Nat → Double) :
    Step Value := do
  let bits ← takeNumber format width
  if isNaN bits then .fail (.readNaN format) else return .float (ofBits bits)

/-- Reads the groups of a short integer, of which so many more may follow. -/
def readShort (place value : Nat) : Nat → Step Value
  | 0 => .fail .shortTooLong
  | more + 1 => do
    let bytes ← Step.take 1 "shortU16"
    let b := bytes.headD 0
    let value := value + (b.toNat % 128) * Nat.pow 128 place
    if b < 128 then return .unsigned value else readShort (place + 1) value more

/-- Reads a number in a format. -/
def readNumber : NumberFormat → Step Value
  | .u8 => readUnsigned .u8 1
  | .u16 => readUnsigned .u16 2
  | .u32 => readUnsigned .u32 4
  | .u64 => readUnsigned .u64 8
  | .u128 => readUnsigned .u128 16
  | .i8 => readSigned .i8 1
  | .i16 => readSigned .i16 2
  | .i32 => readSigned .i32 4
  | .i64 => readSigned .i64 8
  | .i128 => readSigned .i128 16
  | .f32 => readFloat .f32 4 Double.isSingleNaN Double.ofSingle
  | .f64 => readFloat .f64 8 (fun n => (Double.mk (UInt64.ofNat n)).isNaN)
      (fun n => ⟨UInt64.ofNat n⟩)
  | .shortU16 => readShort 0 0 3

end DartClient
