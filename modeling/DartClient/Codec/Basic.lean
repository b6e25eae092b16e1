import DartClient.Idl.NumberType

/-!
# Codecs

A codec is the exact byte layout of a type: numbers at their width, lengths where they are stored,
fields and variants in order. Classes are named as in the generated code.

## Main definitions

* `Codec`, `FieldCodec`, `VariantCodec`, `Payload`: layouts.
* `Length`: how a length is stored.
* `CodecKind` and `Codec.kind`: a coarse classification.
-/

namespace DartClient

open Idl (NumberFormat)

/-- How the length of a value is stored. -/
inductive Length where
  /-- As a number in front of the value. -/
  | prefixed (format : NumberFormat)
  /-- Not at all, since it is always the same. -/
  | fixed (size : Nat)
  /-- Not at all, since the value takes the rest of the input. -/
  | remainder
  deriving DecidableEq, Repr

/-- A length in four bytes. -/
def Length.borsh : Length := .prefixed .u32

/-- What a reference to a defined type refers to. -/
inductive DefinedKind where
  /-- A struct. -/
  | struct
  /-- An enum, with the classes of its variants. -/
  | enum (variants : List String)
  deriving DecidableEq, Repr

mutual

/-- The byte layout of a type. -/
inductive Codec where
  /-- A number. -/
  | number (format : NumberFormat)
  /-- A flag written as a number. -/
  | boolean (format : NumberFormat)
  /-- A text in UTF-8. -/
  | string (length : Length)
  /-- Bytes. -/
  | bytes (length : Length)
  /-- An address of 32 bytes. -/
  | publicKey
  /-- A presence flag and, if it is set, an item. A fixed option fills the gap with zeros. -/
  | option (item : Codec) (flag : NumberFormat) (isFixed : Bool)
  /-- A list. -/
  | list (item : Codec) (count : Length)
  /-- A fixed number of numbers, packed into a typed list. -/
  | typedArray (item : Codec) (count : Nat)
  /-- A set. -/
  | set (item : Codec) (count : Length)
  /-- A map. -/
  | map (key value : Codec) (count : Length)
  /-- Items in order. -/
  | tuple (items : List Codec)
  /-- The fields of a class, in order. -/
  | struct (name : String) (fields : List FieldCodec)
  /-- The index of a variant and its payload. -/
  | enum (name : String) (size : NumberFormat) (variants : List VariantCodec)
  /-- A class whose layout stands elsewhere. -/
  | defined (name : String) (kind : DefinedKind)
  /-- A value preceded by the number of its bytes. -/
  | sizePrefixed (inner : Codec) (width : NumberFormat)
  /-- A value of exactly so many bytes. -/
  | fixedSize (inner : Codec) (size : Nat)
  /-- A type of a kind that is not known; it has no layout. -/
  | unknown (kind : String)

/-- A field. -/
structure FieldCodec where
  /-- The name, as it is written in the description. -/
  name : String
  /-- The layout. -/
  codec : Codec

/-- A variant. -/
structure VariantCodec where
  /-- The class. -/
  name : String
  /-- The position among the variants. -/
  index : Nat
  /-- The layout of the payload. -/
  payload : Payload

/-- The payload of a variant. -/
inductive Payload where
  /-- Nothing. -/
  | empty
  /-- Unnamed items. -/
  | tuple (items : List Codec)
  /-- Named fields. -/
  | struct (fields : List FieldCodec)

end

/-- A coarse classification of codecs. -/
inductive CodecKind where
  | fixedWidthInt
  | fixedWidthFloat
  | bool
  | utf8String
  | rawBytes
  | fixedBytes (size : Nat)
  | lengthPrefixed
  | composite
  | unknown
  deriving DecidableEq, Repr

/-- The name of a class of codecs. -/
def CodecKind.name : CodecKind → String
  | fixedWidthInt => "FixedWidthInt"
  | fixedWidthFloat => "FixedWidthFloat"
  | bool => "Bool"
  | utf8String => "Utf8String"
  | rawBytes => "RawBytes"
  | fixedBytes size => "FixedBytes(" ++ toString size ++ ")"
  | lengthPrefixed => "LengthPrefixed"
  | composite => "Composite"
  | unknown => "Opaque"

namespace Codec

/-- The class that a codec belongs to. -/
def kind : Codec → CodecKind
  | .number format => if format.isFloat then .fixedWidthFloat else .fixedWidthInt
  | .boolean _ => .bool
  | .string _ => .utf8String
  | .bytes .remainder => .rawBytes
  | .bytes (.fixed size) => .fixedBytes size
  | .publicKey => .fixedBytes 32
  | .bytes (.prefixed _) | .sizePrefixed _ _ | .list _ (.prefixed _) | .set _ (.prefixed _)
  | .map _ _ (.prefixed _) => .lengthPrefixed
  | .unknown _ => .unknown
  | _ => .composite

/-- The codec inside a container of a single kind of item. -/
def element? : Codec → Option Codec
  | .option item _ _ | .list item _ | .typedArray item _ | .set item _ => some item
  | .sizePrefixed inner _ | .fixedSize inner _ => some inner
  | _ => none

end Codec

/-- The codecs of the parts of a payload, in order. -/
def Payload.codecs : Payload → List Codec
  | .empty => []
  | .tuple items => items
  | .struct fields => fields.map FieldCodec.codec

end DartClient
