import DartClient.Idl.Program
import DartClient.Text.Record

/-!
# Nodes in messages

The text by which a message shows an input value with everything inside it.

## Main definitions

* `InputValue.shown`: the text of an input value.
* `TypeNode.shown`, `ValueNode.shown`: the texts of the types and values inside it.
-/

namespace DartClient.Idl

open Text (quoteText listText quotedListText callText optionText recordText)

/-- The text of a number format. -/
def NumberFormat.shown : NumberFormat → String
  | .u8 => "U8"
  | .u16 => "U16"
  | .u32 => "U32"
  | .u64 => "U64"
  | .u128 => "U128"
  | .i8 => "I8"
  | .i16 => "I16"
  | .i32 => "I32"
  | .i64 => "I64"
  | .i128 => "I128"
  | .f32 => "F32"
  | .f64 => "F64"
  | .shortU16 => "ShortU16"

/-- The text of a number type. -/
def NumberType.shown (type : NumberType) : String :=
  recordText "NumberTypeNode"
    [("format", type.format.shown),
      ("endian", match type.endian with | .little => "Le" | .big => "Be")]

/-- The text of a count. -/
def Count.shown : Count → String
  | .fixed value => recordText "Fixed" [("value", toString value)]
  | .prefixed width => recordText "Prefixed" [("prefix", width.shown)]
  | .remainder => "Remainder"

/-- The text of a text encoding. -/
def BytesEncoding.shown : BytesEncoding → String
  | .base16 => "Base16"
  | .base58 => "Base58"
  | .base64 => "Base64"
  | .utf8 => "Utf8"

/-- The text of bytes written as a text. -/
def BytesValue.shown (value : BytesValue) : String :=
  recordText "BytesValueNode"
    [("data", quoteText value.data), ("encoding", value.encoding.shown)]

/-- The text of a number of a document. -/
def numberShown (value : Json.Number) : String := callText "Number" value.render

/-- The text of a layout-altering type. -/
def LayoutKind.shown : LayoutKind → String
  | .hiddenPrefix => "HiddenPrefix"
  | .hiddenSuffix => "HiddenSuffix"
  | .preOffset => "PreOffset"
  | .postOffset => "PostOffset"
  | .sentinel => "Sentinel"
  | .zeroableOption => "ZeroableOption"
  | .remainderOption => "RemainderOption"

/-- The text of a wrapped number. -/
def wrappedShown (name : String) (number : NumberType) : String :=
  callText name (recordText "WrappedNumberTypeNode" [("number", number.shown)])

/-- The text of the items of a tuple. -/
def tupleText (items : List String) : String :=
  recordText "TupleTypeNode" [("items", listText items)]

/-- The text of the fields of a struct. -/
def structText (fields : List String) : String :=
  recordText "StructTypeNode" [("fields", listText fields)]

mutual

/-- The text of a type. -/
def TypeNode.shown : TypeNode → String
  | .number type => callText "Number" type.shown
  | .boolean size => callText "Boolean" (recordText "BooleanTypeNode" [("size", size.shown)])
  | .string encoding =>
    callText "String" (recordText "StringTypeNode" [("encoding", encoding.shown)])
  | .bytes => "Bytes"
  | .publicKey => "PublicKey"
  | .array item count =>
    callText "Array" (recordText "ArrayTypeNode" [("item", item.shown), ("count", count.shown)])
  | .option item flag isFixed =>
    callText "Option" (recordText "OptionTypeNode"
      [("item", item.shown), ("prefix", flag.shown), ("fixed", toString isFixed)])
  | .set item count =>
    callText "Set" (recordText "SetTypeNode" [("item", item.shown), ("count", count.shown)])
  | .map key value count =>
    callText "Map" (recordText "MapTypeNode"
      [("key", key.shown), ("value", value.shown), ("count", count.shown)])
  | .tuple items => callText "Tuple" (tupleText (typesShown items))
  | .fixedSize inner size =>
    callText "FixedSize" (recordText "FixedSizeTypeNode"
      [("type", inner.shown), ("size", toString size)])
  | .sizePrefix inner width =>
    callText "SizePrefix" (recordText "SizePrefixTypeNode"
      [("type", inner.shown), ("prefix", width.shown)])
  | .link name program =>
    let programText := program.map fun name =>
      recordText "ProgramLinkNode" [("name", quoteText name)]
    callText "DefinedTypeLink" (recordText "DefinedTypeLinkNode"
      [("name", quoteText name), ("program", optionText programText)])
  | .struct fields => callText "Struct" (structText (fieldsShown fields))
  | .enum variants size =>
    callText "Enum" (recordText "EnumTypeNode"
      [("variants", listText (variantsShown variants)), ("size", size.shown)])
  | .amount number => wrappedShown "Amount" number
  | .solAmount number => wrappedShown "SolAmount" number
  | .dateTime number => wrappedShown "DateTime" number
  | .altered kind => kind.shown
  | .unknown => "Unknown"

/-- The texts of types. -/
def typesShown : List TypeNode → List String
  | [] => []
  | type :: types => type.shown :: typesShown types

/-- The texts of fields. -/
def fieldsShown : List StructField → List String
  | [] => []
  | ⟨name, type, docs, defaultValue⟩ :: fields =>
    recordText "StructFieldTypeNode"
      [("name", quoteText name), ("type", type.shown), ("docs", quotedListText docs),
        ("default_value", optionText (optionalValueShown defaultValue))] :: fieldsShown fields

/-- The texts of variants. -/
def variantsShown : List EnumVariant → List String
  | [] => []
  | .empty name :: variants =>
    recordText "Empty" [("name", quoteText name)] :: variantsShown variants
  | .tuple name items :: variants =>
    recordText "Tuple" [("name", quoteText name), ("tuple", tupleText (typesShown items))] ::
      variantsShown variants
  | .struct name fields :: variants =>
    recordText "Struct" [("name", quoteText name), ("struct", structText (fieldsShown fields))] ::
      variantsShown variants

/-- The text of a value. -/
def ValueNode.shown : ValueNode → String
  | .number value => recordText "Number" [("number", numberShown value)]
  | .string value => recordText "String" [("string", quoteText value)]
  | .boolean value => recordText "Boolean" [("boolean", toString value)]
  | .bytes value => callText "Bytes" value.shown
  | .publicKey key identifier =>
    recordText "PublicKey"
      [("public_key", quoteText key), ("identifier", optionText (identifier.map quoteText))]
  | .array items => recordText "Array" [("items", listText (valuesShown items))]
  | .tuple items => recordText "Tuple" [("items", listText (valuesShown items))]
  | .absent => "None"
  | .present value => recordText "Some" [("value", value.shown)]
  | .constant type value =>
    recordText "Constant" [("type", type.shown), ("value", value.shown)]
  | .programId => "ProgramId"
  | .unsupported => "Unsupported"

/-- The texts of values. -/
def valuesShown : List ValueNode → List String
  | [] => []
  | value :: values => value.shown :: valuesShown values

/-- The text of a value that may be absent. -/
def optionalValueShown : Option ValueNode → Option String
  | none => none
  | some value => some value.shown

end

/-- The text of a seed of a derived address. -/
def PdaSeed.shown : PdaSeed → String
  | .constant type value =>
    recordText "Constant" [("type", type.shown), ("value", value.shown)]
  | .variable name type docs =>
    recordText "Variable"
      [("name", quoteText name), ("type", type.shown), ("docs", quotedListText docs)]

/-- The text of a reference to a derived address. -/
def PdaReference.shown : PdaReference → String
  | .link name => recordText "Link" [("name", quoteText name)]
  | .inline pda =>
    callText "Inline" (recordText "PdaNode"
      [("name", quoteText pda.name), ("docs", quotedListText pda.docs),
        ("seeds", listText (pda.seeds.map PdaSeed.shown)),
        ("program_id", optionText (pda.programId.map quoteText))])

mutual

/-- The text of an input value. -/
def InputValue.shown : InputValue → String
  | .account name => recordText "Account" [("name", quoteText name)]
  | .argument name => recordText "Argument" [("name", quoteText name)]
  | .pda ⟨pda, seeds⟩ =>
    callText "Pda" (recordText "PdaValueNode"
      [("pda", pda.shown), ("seeds", listText (seedValuesShown seeds))])
  | .publicKey key => recordText "PublicKey" [("public_key", quoteText key)]
  | .programId => "ProgramId"
  | .identity => "Identity"
  | .payer => "Payer"
  | .conditional condition ifTrue ifFalse =>
    callText "Conditional" (recordText "ConditionalValueNode"
      [("condition", condition.shown), ("if_true", optionText (branchShown ifTrue)),
        ("if_false", optionText (branchShown ifFalse))])
  | .number value => recordText "Number" [("number", numberShown value)]
  | .string value => recordText "String" [("string", quoteText value)]
  | .boolean value => recordText "Boolean" [("boolean", toString value)]
  | .bytes value => callText "Bytes" value.shown
  | .unsupported => "Unsupported"

/-- The texts of values for seeds. -/
def seedValuesShown : List SeedValue → List String
  | [] => []
  | ⟨name, value⟩ :: seeds =>
    recordText "PdaSeedValueNode" [("name", quoteText name), ("value", value.shown)] ::
      seedValuesShown seeds

/-- The text of a branch that may be absent. -/
def branchShown : Option InputValue → Option String
  | none => none
  | some value => some value.shown

end

end DartClient.Idl
