/-!
# Number types

The formats of numbers in an interface description, and a format together with its byte order.

## Main definitions

* `NumberFormat`: integers of 8 to 128 bits, floats, and the short integer of one to three bytes.
* `NumberType`: a format and a byte order.
-/

namespace DartClient.Idl

/-- How a number is written. -/
inductive NumberFormat where
  | u8 | u16 | u32 | u64 | u128
  | i8 | i16 | i32 | i64 | i128
  | f32 | f64
  /-- An unsigned number of 16 bits in one to three bytes of seven bits each. -/
  | shortU16
  deriving DecidableEq, Repr

namespace NumberFormat

/-- All formats. -/
def all : List NumberFormat :=
  [u8, u16, u32, u64, u128, i8, i16, i32, i64, i128, f32, f64, shortU16]

/-- The formats of a fixed width. -/
def allFixed : List NumberFormat :=
  [u8, u16, u32, u64, u128, i8, i16, i32, i64, i128, f32, f64]

/-- The name of a format. -/
def name : NumberFormat → String
  | u8 => "u8"
  | u16 => "u16"
  | u32 => "u32"
  | u64 => "u64"
  | u128 => "u128"
  | i8 => "i8"
  | i16 => "i16"
  | i32 => "i32"
  | i64 => "i64"
  | i128 => "i128"
  | f32 => "f32"
  | f64 => "f64"
  | shortU16 => "shortU16"

/-- The format of a name. -/
def ofName? (name : String) : Option NumberFormat := all.find? (·.name == name)

/-- The number of bytes, where it does not depend on the number. -/
def byteWidth? : NumberFormat → Option Nat
  | u8 | i8 => some 1
  | u16 | i16 => some 2
  | u32 | i32 | f32 => some 4
  | u64 | i64 | f64 => some 8
  | u128 | i128 => some 16
  | shortU16 => none

/-- The greatest number of bytes. -/
def maxWidth (format : NumberFormat) : Nat := format.byteWidth?.getD 3

/-- Whether the numbers are floating point numbers. -/
def isFloat : NumberFormat → Bool
  | f32 | f64 => true
  | _ => false

/-- Whether the numbers have a sign. -/
def isSigned : NumberFormat → Bool
  | i8 | i16 | i32 | i64 | i128 | f32 | f64 => true
  | _ => false

/-- Whether the numbers are integers of 64 bits or more. -/
def isWideInteger : NumberFormat → Bool
  | u64 | u128 | i64 | i128 => true
  | _ => false

end NumberFormat

/-- The order of the bytes of a number. -/
inductive Endian where
  /-- Least significant byte first. -/
  | little
  /-- Most significant byte first. -/
  | big
  deriving DecidableEq, Repr

/-- The name of a byte order. -/
def Endian.name : Endian → String
  | little => "le"
  | big => "be"

/-- The byte order of a name. -/
def Endian.ofName? : String → Option Endian
  | "le" => some little
  | "be" => some big
  | _ => none

/-- A number format with a byte order. -/
structure NumberType where
  /-- The format. -/
  format : NumberFormat
  /-- The byte order, little endian where none is given. -/
  endian : Endian := .little
  deriving DecidableEq, Repr

end DartClient.Idl
