import DartClient.Idl.NumberType
import DartClient.Json.Basic

/-!
# Types and values

The type trees of an interface description and the literal values that stand beside them. Types
and values refer to each other: a struct field may have a default value, and a constant value
carries its type.

## Main definitions

* `TypeNode`, `StructField`, `EnumVariant`: types.
* `ValueNode`, `BytesValue`: values.
* `Count`: how many items a list has.
-/

namespace DartClient.Idl

/-- How a text stands for bytes. -/
inductive BytesEncoding where
  | base16 | base58 | base64 | utf8
  deriving DecidableEq, Repr

/-- The name of a text encoding. -/
def BytesEncoding.name : BytesEncoding → String
  | base16 => "base16"
  | base58 => "base58"
  | base64 => "base64"
  | utf8 => "utf8"

/-- The text encoding of a name. -/
def BytesEncoding.ofName? : String → Option BytesEncoding
  | "base16" => some base16
  | "base58" => some base58
  | "base64" => some base64
  | "utf8" => some utf8
  | _ => none

/-- How many items a list, set or map has. -/
inductive Count where
  /-- Always the same number. -/
  | fixed (value : Nat)
  /-- As many as a number in front of the items says. -/
  | prefixed (width : NumberType)
  /-- As many as there are bytes for. -/
  | remainder
  deriving DecidableEq, Repr

/-- A list preceded by its length in four bytes. -/
def Count.borsh : Count := .prefixed ⟨.u32, .little⟩

/-- Types that move or mark the bytes of another type in ways that no annotation expresses. -/
inductive LayoutKind where
  | hiddenPrefix | hiddenSuffix | preOffset | postOffset | sentinel
  | zeroableOption | remainderOption
  deriving DecidableEq, Repr

/-- Bytes written as a text. -/
structure BytesValue where
  /-- The text. -/
  data : String
  /-- How the text stands for bytes. -/
  encoding : BytesEncoding
  deriving DecidableEq, Repr

mutual

/-- A type of an interface description. -/
inductive TypeNode where
  /-- A number. -/
  | number (type : NumberType)
  /-- A flag written as a number. -/
  | boolean (size : NumberType)
  /-- A text. -/
  | string (encoding : BytesEncoding)
  /-- Bytes. -/
  | bytes
  /-- An address. -/
  | publicKey
  /-- A list of items of one type. -/
  | array (item : TypeNode) (count : Count)
  /-- A value that may be absent, behind a presence flag; a fixed option fills the gap. -/
  | option (item : TypeNode) (flag : NumberType) (isFixed : Bool)
  /-- A set of items of one type. -/
  | set (item : TypeNode) (count : Count)
  /-- A map. -/
  | map (key value : TypeNode) (count : Count)
  /-- Items of given types, in order. -/
  | tuple (items : List TypeNode)
  /-- A type that takes exactly so many bytes. -/
  | fixedSize (inner : TypeNode) (size : Nat)
  /-- A type preceded by the number of its bytes. -/
  | sizePrefix (inner : TypeNode) (width : NumberType)
  /-- A type defined elsewhere, in this program or in another one. -/
  | link (name : String) (program : Option String)
  /-- Named fields, in order. -/
  | struct (fields : List StructField)
  /-- One of several variants, told apart by their index. -/
  | enum (variants : List EnumVariant) (size : NumberType)
  /-- A number that counts units of a currency. -/
  | amount (number : NumberType)
  /-- A number that counts units of the native currency. -/
  | solAmount (number : NumberType)
  /-- A number that tells a point in time. -/
  | dateTime (number : NumberType)
  /-- A type that alters the layout of another one. -/
  | altered (kind : LayoutKind)
  /-- A type of a kind that is not known. -/
  | unknown

/-- A field of a struct. -/
structure StructField where
  /-- The name. -/
  name : String
  /-- The type. -/
  type : TypeNode
  /-- The lines of its documentation. -/
  docs : List String
  /-- The value it has where none is given. -/
  defaultValue : Option ValueNode

/-- A variant of an enum. -/
inductive EnumVariant where
  /-- A variant without payload. -/
  | empty (name : String)
  /-- A variant with unnamed payload items. -/
  | tuple (name : String) (items : List TypeNode)
  /-- A variant with named payload fields. -/
  | struct (name : String) (fields : List StructField)

/-- A literal value. -/
inductive ValueNode where
  /-- A number. -/
  | number (value : Json.Number)
  /-- A text. -/
  | string (value : String)
  /-- A flag. -/
  | boolean (value : Bool)
  /-- Bytes written as a text. -/
  | bytes (value : BytesValue)
  /-- An address, possibly with a name. -/
  | publicKey (key : String) (identifier : Option String)
  /-- A list. -/
  | array (items : List ValueNode)
  /-- A tuple. -/
  | tuple (items : List ValueNode)
  /-- An option without value. -/
  | absent
  /-- An option with a value. -/
  | present (value : ValueNode)
  /-- A value with its type. -/
  | constant (type : TypeNode) (value : ValueNode)
  /-- The address of the program. -/
  | programId
  /-- A value of a kind that is not known. -/
  | unsupported

end

/-- The name of a variant. -/
def EnumVariant.name : EnumVariant → String
  | .empty name | .tuple name _ | .struct name _ => name

/-- The kind of a layout-altering type, as it is written in a description. -/
def LayoutKind.name : LayoutKind → String
  | .hiddenPrefix => "hiddenPrefixTypeNode"
  | .hiddenSuffix => "hiddenSuffixTypeNode"
  | .preOffset => "preOffsetTypeNode"
  | .postOffset => "postOffsetTypeNode"
  | .sentinel => "sentinelTypeNode"
  | .zeroableOption => "zeroableOptionTypeNode"
  | .remainderOption => "remainderOptionTypeNode"

namespace TypeNode

/-- The kind of a type, as it is written in a description. -/
def kind : TypeNode → String
  | .number _ => "numberTypeNode"
  | .boolean _ => "booleanTypeNode"
  | .string _ => "stringTypeNode"
  | .bytes => "bytesTypeNode"
  | .publicKey => "publicKeyTypeNode"
  | .array _ _ => "arrayTypeNode"
  | .option _ _ _ => "optionTypeNode"
  | .set _ _ => "setTypeNode"
  | .map _ _ _ => "mapTypeNode"
  | .tuple _ => "tupleTypeNode"
  | .fixedSize _ _ => "fixedSizeTypeNode"
  | .sizePrefix _ _ => "sizePrefixTypeNode"
  | .link _ _ => "definedTypeLinkNode"
  | .struct _ => "structTypeNode"
  | .enum _ _ => "enumTypeNode"
  | .amount _ => "amountTypeNode"
  | .solAmount _ => "solAmountTypeNode"
  | .dateTime _ => "dateTimeTypeNode"
  | .altered kind => kind.name
  | .unknown => "unknown"

/-- The format of a little endian number that is not wrapped in anything. -/
def plainNumber? : TypeNode → Option NumberFormat
  | .number ⟨format, .little⟩ => some format
  | _ => none

/-- The fields of a struct below any number of size wrappers. -/
def structFields? : TypeNode → Option (List StructField)
  | .struct fields => some fields
  | .fixedSize inner _ => inner.structFields?
  | .sizePrefix inner _ => inner.structFields?
  | _ => none

/-! ## Common types -/

/-- A little endian number. -/
def littleNumber (format : NumberFormat) : TypeNode := .number ⟨format, .little⟩

/-- A text in UTF-8. -/
def text : TypeNode := .string .utf8

/-- A flag of one byte. -/
def flag : TypeNode := .boolean ⟨.u8, .little⟩

/-- A link to a type of the same program. -/
def defined (name : String) : TypeNode := .link name none

/-- An option behind a flag of one byte. -/
def optional (item : TypeNode) : TypeNode := .option item ⟨.u8, .little⟩ false

end TypeNode

/-- A field without documentation and default value. -/
def StructField.plain (name : String) (type : TypeNode) : StructField := ⟨name, type, [], none⟩

end DartClient.Idl
