import DartClient.Codec.Size

/-!
# Annotations

The expression by which generated code names a layout, and the annotation placed before a field.
A length in four bytes is the default and has the short form; other ways to store a length appear
in the name of the expression. A part without layout has no expression.

## Main definitions

* `Codec.borshType?`: the expression.
* `Codec.annotation?`: the annotation.
-/

namespace DartClient

open Idl (NumberFormat)

/-- The expression of a number. -/
def numberBorshType : NumberFormat → String
  | .u8 => "BU8()"
  | .u16 => "BU16()"
  | .u32 => "BU32()"
  | .u64 => "BU64()"
  | .u128 => "BU128()"
  | .i8 => "BI8()"
  | .i16 => "BI16()"
  | .i32 => "BI32()"
  | .i64 => "BI64()"
  | .i128 => "BI128()"
  | .f32 => "BF32()"
  | .f64 => "BF64()"
  | .shortU16 => "BShortU16()"

/-- The expression of a value with a length; `arguments` are the expressions of its parts. -/
def lengthBorshType (base : String) (length : Length) (arguments : List String) : String :=
  let call (name : String) (arguments : List String) :=
    name ++ base ++ "(" ++ ", ".intercalate arguments ++ ")"
  match length with
  | .prefixed .u32 => call "B" arguments
  | .prefixed format => call "BPrefixed" (numberBorshType format :: arguments)
  | .fixed size => call "BFixed" (toString size :: arguments)
  | .remainder => call "BRemainder" arguments

/-- The expression of an enum, which lists the classes of its variants. -/
def enumBorshType (name : String) (variants : List String) : String :=
  let entries := variants.map fun variant => variant ++ ": B" ++ variant ++ "()"
  "BEnum<" ++ name ++ ">(\x7b" ++ ", ".intercalate entries ++ "\x7d)"

mutual

/-- The expression that names a layout. -/
def Codec.borshType? : Codec → Option String
  | .number format => some (numberBorshType format)
  | .boolean .u8 => some "BBool()"
  | .boolean format => some ("BPrefixedBool(" ++ numberBorshType format ++ ")")
  | .string length => some (lengthBorshType "String" length [])
  | .bytes length => some (lengthBorshType "Bytes" length [])
  | .publicKey => some "BPublicKey()"
  | .option item flag isFixed => do
    let item ← item.borshType?
    if isFixed then some ("BFixedOption(" ++ numberBorshType flag ++ ", " ++ item ++ ")")
    else if flag = .u8 then some ("BOption(" ++ item ++ ")")
    else some ("BPrefixedOption(" ++ numberBorshType flag ++ ", " ++ item ++ ")")
  | .list item count => do return lengthBorshType "Array" count [← item.borshType?]
  | .typedArray item count => do
    return "BFixedArray(" ++ toString count ++ ", " ++ (← item.borshType?) ++ ")"
  | .set item count => do return lengthBorshType "Set" count [← item.borshType?]
  | .map key value count => do
    return lengthBorshType "Map" count [← key.borshType?, ← value.borshType?]
  | .tuple items => do
    return "BTuple([" ++ ", ".intercalate (← itemBorshTypes? items) ++ "])"
  | .struct name fields =>
    if fieldsContainUnknown fields then none else some ("BCustom(B" ++ name ++ "())")
  | .enum name _ variants => some (enumBorshType name (variants.map VariantCodec.name))
  | .defined name (.enum variants) => some (enumBorshType name variants)
  | .defined name .struct => some ("BCustom(B" ++ name ++ "())")
  | .sizePrefixed inner width => do
    return "BSizePrefixed(" ++ numberBorshType width ++ ", " ++ (← inner.borshType?) ++ ")"
  | .fixedSize inner size => do
    return "BFixedSize(" ++ toString size ++ ", " ++ (← inner.borshType?) ++ ")"
  | .unknown _ => none

/-- The expressions of items in a row. -/
def itemBorshTypes? : List Codec → Option (List String)
  | [] => some []
  | item :: items => do return (← item.borshType?) :: (← itemBorshTypes? items)

end

/-- The annotation placed before a field. -/
def Codec.annotation? (codec : Codec) : Option String := codec.borshType?.map ("@" ++ ·)

end DartClient
