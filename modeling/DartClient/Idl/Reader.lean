import DartClient.Idl.Program
import DartClient.Json.Record

/-!
# Reading descriptions

The nodes of an interface description from JSON documents. Members that are not known are ignored,
the kind of a node is looked at only where several kinds may stand, and missing members take their
defaults. A type or value of an unknown kind is kept as such; elsewhere an unknown kind is refused.

A node of several kinds is read in two ways, by `ofJson?` where it stands by itself and by `ofPart?`
inside of another one. Types, values and input values are read with a bound on their nesting, which
is the depth of the document.

## Main definitions

* `TypeNode.ofJson?`, `ValueNode.ofJson?`, `InputValue.ofJson?`: the trees.
* `Root.ofJson?`, `Program.ofJson?` and so on: the nodes around them.
-/

namespace DartClient.Idl

open Json

/-! ## Numbers and counts -/

/-- A number format that stands by itself. -/
def NumberFormat.ofJson? (json : Json) : Option NumberFormat :=
  json.constantName?.bind NumberFormat.ofName?

/-- The number format of a number type. -/
def NumberFormat.ofPart? (json : Json) : Option NumberFormat :=
  json.partName?.bind NumberFormat.ofName?

/-- The byte order of a number type. -/
def Endian.ofPart? (json : Json) : Option Endian := json.partName?.bind Endian.ofName?

/-- The text encoding of a type or value. -/
def BytesEncoding.ofPart? (json : Json) : Option BytesEncoding :=
  json.partName?.bind BytesEncoding.ofName?

/-- A number type. -/
def NumberType.ofJson? (json : Json) : Option NumberType := do
  let record ← json.record? ["format", "endian"]
  return { format := ← record.required? "format" NumberFormat.ofPart?
           endian := ← record.withDefault? "endian" Endian.ofPart? .little }

/-- The number of a record that consists of a number alone. -/
def wrappedNumber? (json : Json) : Option NumberType := do
  let record ← json.record? ["number"]
  record.required? "number" NumberType.ofJson?

/-- The kinds of counts, in declared order. -/
def Count.kinds : List String := ["fixedCountNode", "prefixedCountNode", "remainderCountNode"]

/-- The count of a type. -/
def Count.ofPart? (json : Json) : Option Count := do
  let (kind, rest) ← json.tagged? Count.kinds
  match kind with
  | "fixedCountNode" =>
    let record ← rest.record? ["value"]
    return .fixed (← record.required? "value" toNat?)
  | "prefixedCountNode" =>
    let record ← rest.record? ["prefix"]
    return .prefixed (← record.required? "prefix" NumberType.ofJson?)
  | "remainderCountNode" => if rest.isUnit then return .remainder else none
  | _ => none

/-- Bytes written as a text. -/
def BytesValue.ofJson? (json : Json) : Option BytesValue := do
  let record ← json.record? ["data", "encoding"]
  return { data := ← record.required? "data" toText?
           encoding := ← record.required? "encoding" BytesEncoding.ofPart? }

/-- A record that consists of a name alone. -/
def named? (json : Json) : Option String := do
  let record ← json.record? ["name"]
  record.required? "name" toText?

/-- A link to a defined type: its name, and that of the program that declares it. -/
def typeLink? (json : Json) : Option (String × Option String) := do
  let record ← json.record? ["name", "program"]
  return (← record.required? "name" toText?, ← record.optional? "program" named?)

/-- The layout-altering types, in declared order. -/
def LayoutKind.all : List LayoutKind :=
  [hiddenPrefix, hiddenSuffix, preOffset, postOffset, sentinel, zeroableOption, remainderOption]

/-- The layout-altering type of a kind. -/
def LayoutKind.ofName? (kind : String) : Option LayoutKind :=
  LayoutKind.all.find? (·.name == kind)

/-! ## Types and values -/

/-- The kinds of types, in declared order. -/
def TypeNode.kinds : List String :=
  ["numberTypeNode", "booleanTypeNode", "stringTypeNode", "bytesTypeNode", "publicKeyTypeNode",
    "arrayTypeNode", "optionTypeNode", "setTypeNode", "mapTypeNode", "tupleTypeNode",
    "fixedSizeTypeNode", "sizePrefixTypeNode", "definedTypeLinkNode", "structTypeNode",
    "enumTypeNode", "amountTypeNode", "solAmountTypeNode", "dateTimeTypeNode"] ++
  LayoutKind.all.map LayoutKind.name

/-- The kinds of values, in declared order. -/
def ValueNode.kinds : List String :=
  ["numberValueNode", "stringValueNode", "booleanValueNode", "bytesValueNode",
    "publicKeyValueNode", "arrayValueNode", "tupleValueNode", "noneValueNode", "someValueNode",
    "constantValueNode", "programIdValueNode"]

/-- The kinds of variants, in declared order. -/
def EnumVariant.kinds : List String :=
  ["enumEmptyVariantTypeNode", "enumTupleVariantTypeNode", "enumStructVariantTypeNode"]

/-- The items of a tuple, each read in the same way. -/
def tupleItems? (type : Json → Option TypeNode) (json : Json) : Option (List TypeNode) := do
  let record ← json.record? ["items"]
  record.withDefault? "items" (toList? type) []

/-- A field, whose type and default value are read in the given ways. -/
def structField? (type : Json → Option TypeNode) (value : Json → Option ValueNode)
    (json : Json) : Option StructField := do
  let record ← json.record? ["name", "type", "docs", "defaultValue"]
  return { name := ← record.required? "name" toText?
           type := ← record.required? "type" type
           docs := ← record.withDefault? "docs" toTexts? []
           defaultValue := ← record.optional? "defaultValue" value }

/-- The fields of a struct. -/
def structFields? (type : Json → Option TypeNode) (value : Json → Option ValueNode)
    (json : Json) : Option (List StructField) := do
  let record ← json.record? ["fields"]
  record.withDefault? "fields" (toList? (structField? type value)) []

/-- A variant, whose payload is read in the given ways. -/
def enumVariant? (type : Json → Option TypeNode) (value : Json → Option ValueNode)
    (json : Json) : Option EnumVariant := do
  let (kind, rest) ← json.tagged? EnumVariant.kinds
  match kind with
  | "enumEmptyVariantTypeNode" =>
    let record ← rest.record? ["name"]
    return .empty (← record.required? "name" toText?)
  | "enumTupleVariantTypeNode" =>
    let record ← rest.record? ["name", "tuple"]
    return .tuple (← record.required? "name" toText?)
      (← record.required? "tuple" (tupleItems? type))
  | "enumStructVariantTypeNode" =>
    let record ← rest.record? ["name", "struct"]
    return .struct (← record.required? "name" toText?)
      (← record.required? "struct" (structFields? type value))
  | _ => none

mutual

/-- A type that is nested no deeper than the bound. -/
def TypeNode.read : Nat → Json → Option TypeNode
  | 0, _ => none
  | bound + 1, json => do
    let (kind, rest) ← json.tagged? TypeNode.kinds
    match kind with
    | "numberTypeNode" => return .number (← NumberType.ofJson? rest)
    | "booleanTypeNode" =>
      let record ← rest.record? ["size"]
      return .boolean (← record.withDefault? "size" NumberType.ofJson? ⟨.u8, .little⟩)
    | "stringTypeNode" =>
      let record ← rest.record? ["encoding"]
      return .string (← record.withDefault? "encoding" BytesEncoding.ofPart? .utf8)
    | "bytesTypeNode" => if rest.isUnit then return .bytes else none
    | "publicKeyTypeNode" => if rest.isUnit then return .publicKey else none
    | "arrayTypeNode" =>
      let record ← rest.record? ["item", "count"]
      return .array (← record.required? "item" (TypeNode.read bound))
        (← record.required? "count" Count.ofPart?)
    | "optionTypeNode" =>
      let record ← rest.record? ["item", "prefix", "fixed"]
      return .option (← record.required? "item" (TypeNode.read bound))
        (← record.withDefault? "prefix" NumberType.ofJson? ⟨.u8, .little⟩)
        (← record.withDefault? "fixed" toBool? false)
    | "setTypeNode" =>
      let record ← rest.record? ["item", "count"]
      return .set (← record.required? "item" (TypeNode.read bound))
        (← record.required? "count" Count.ofPart?)
    | "mapTypeNode" =>
      let record ← rest.record? ["key", "value", "count"]
      return .map (← record.required? "key" (TypeNode.read bound))
        (← record.required? "value" (TypeNode.read bound))
        (← record.required? "count" Count.ofPart?)
    | "tupleTypeNode" => return .tuple (← tupleItems? (TypeNode.read bound) rest)
    | "fixedSizeTypeNode" =>
      let record ← rest.record? ["type", "size"]
      return .fixedSize (← record.required? "type" (TypeNode.read bound))
        (← record.required? "size" toNat?)
    | "sizePrefixTypeNode" =>
      let record ← rest.record? ["type", "prefix"]
      return .sizePrefix (← record.required? "type" (TypeNode.read bound))
        (← record.required? "prefix" NumberType.ofJson?)
    | "definedTypeLinkNode" =>
      let (name, program) ← typeLink? rest
      return .link name program
    | "structTypeNode" =>
      return .struct (← structFields? (TypeNode.read bound) (ValueNode.read bound) rest)
    | "enumTypeNode" =>
      let record ← rest.record? ["variants", "size"]
      let variant := enumVariant? (TypeNode.read bound) (ValueNode.read bound)
      return .enum (← record.withDefault? "variants" (toList? variant) [])
        (← record.withDefault? "size" NumberType.ofJson? ⟨.u8, .little⟩)
    | "amountTypeNode" => return .amount (← wrappedNumber? rest)
    | "solAmountTypeNode" => return .solAmount (← wrappedNumber? rest)
    | "dateTimeTypeNode" => return .dateTime (← wrappedNumber? rest)
    | kind =>
      if rest.isUnit then
        return (LayoutKind.ofName? kind).elim .unknown .altered
      else none

/-- A value that is nested no deeper than the bound. -/
def ValueNode.read : Nat → Json → Option ValueNode
  | 0, _ => none
  | bound + 1, json => do
    let (kind, rest) ← json.tagged? ValueNode.kinds
    match kind with
    | "numberValueNode" =>
      let record ← rest.record? ["number"]
      return .number (← record.required? "number" toNumber?)
    | "stringValueNode" =>
      let record ← rest.record? ["string"]
      return .string (← record.required? "string" toText?)
    | "booleanValueNode" =>
      let record ← rest.record? ["boolean"]
      return .boolean (← record.required? "boolean" toBool?)
    | "bytesValueNode" => return .bytes (← BytesValue.ofJson? rest)
    | "publicKeyValueNode" =>
      let record ← rest.record? ["publicKey", "identifier"]
      return .publicKey (← record.required? "publicKey" toText?)
        (← record.optional? "identifier" toText?)
    | "arrayValueNode" =>
      let record ← rest.record? ["items"]
      return .array (← record.required? "items" (toList? (ValueNode.read bound)))
    | "tupleValueNode" =>
      let record ← rest.record? ["items"]
      return .tuple (← record.required? "items" (toList? (ValueNode.read bound)))
    | "noneValueNode" => if rest.isUnit then return .absent else none
    | "someValueNode" =>
      let record ← rest.record? ["value"]
      return .present (← record.required? "value" (ValueNode.read bound))
    | "constantValueNode" =>
      let record ← rest.record? ["type", "value"]
      return .constant (← record.required? "type" (TypeNode.read bound))
        (← record.required? "value" (ValueNode.read bound))
    | "programIdValueNode" => if rest.isUnit then return .programId else none
    | _ => if rest.isUnit then return .unsupported else none

end

/-- A type inside of another node. -/
def TypeNode.ofPart? (json : Json) : Option TypeNode := do TypeNode.read (← json.depth?) json

/-- The type that a document describes. -/
def TypeNode.ofJson? (json : Json) : Option TypeNode := json.standalone?.bind TypeNode.ofPart?

/-- A value inside of another node. -/
def ValueNode.ofPart? (json : Json) : Option ValueNode := do ValueNode.read (← json.depth?) json

/-- The value that a document describes. -/
def ValueNode.ofJson? (json : Json) : Option ValueNode := json.standalone?.bind ValueNode.ofPart?

/-! ## Derived addresses and input values -/

/-- The kinds of seeds, in declared order. -/
def PdaSeed.kinds : List String := ["constantPdaSeedNode", "variablePdaSeedNode"]

/-- A seed of a derived address inside of another node. -/
def PdaSeed.ofPart? (json : Json) : Option PdaSeed := do
  let (kind, rest) ← json.tagged? PdaSeed.kinds
  match kind with
  | "constantPdaSeedNode" =>
    let record ← rest.record? ["type", "value"]
    return .constant (← record.required? "type" TypeNode.ofPart?)
      (← record.required? "value" ValueNode.ofPart?)
  | "variablePdaSeedNode" =>
    let record ← rest.record? ["name", "type", "docs"]
    return .variable (← record.required? "name" toText?)
      (← record.required? "type" TypeNode.ofPart?) (← record.withDefault? "docs" toTexts? [])
  | _ => none

/-- A seed of a derived address. -/
def PdaSeed.ofJson? (json : Json) : Option PdaSeed := json.standalone?.bind PdaSeed.ofPart?

/-- A derived address, whose seeds are read in the given way. -/
def pda? (seed : Json → Option PdaSeed) (json : Json) : Option Pda := do
  let record ← json.record? ["name", "docs", "seeds", "programId"]
  return { name := ← record.required? "name" toText?
           docs := ← record.withDefault? "docs" toTexts? []
           seeds := ← record.withDefault? "seeds" (toList? seed) []
           programId := ← record.optional? "programId" toText? }

/-- A derived address. -/
def Pda.ofJson? : Json → Option Pda := pda? PdaSeed.ofJson?

/-- The kinds of references to a derived address, in declared order. -/
def PdaReference.kinds : List String := ["pdaLinkNode", "pdaNode"]

/-- The reference of an input value to a derived address. -/
def PdaReference.ofPart? (json : Json) : Option PdaReference := do
  let (kind, rest) ← json.tagged? PdaReference.kinds
  match kind with
  | "pdaLinkNode" => return .link (← named? rest)
  | "pdaNode" => return .inline (← pda? PdaSeed.ofPart? rest)
  | _ => none

/-- A value for a seed, which is read in the given way. -/
def seedValue? (value : Json → Option InputValue) (json : Json) : Option SeedValue := do
  let record ← json.record? ["name", "value"]
  return { name := ← record.required? "name" toText?
           value := ← record.required? "value" value }

/-- The kinds of input values, in declared order. -/
def InputValue.kinds : List String :=
  ["accountValueNode", "argumentValueNode", "pdaValueNode", "publicKeyValueNode",
    "programIdValueNode", "identityValueNode", "payerValueNode", "conditionalValueNode",
    "numberValueNode", "stringValueNode", "booleanValueNode", "bytesValueNode"]

/-- An input value that is nested no deeper than the bound. -/
def InputValue.read : Nat → Json → Option InputValue
  | 0, _ => none
  | bound + 1, json => do
    let (kind, rest) ← json.tagged? InputValue.kinds
    match kind with
    | "accountValueNode" => return .account (← named? rest)
    | "argumentValueNode" => return .argument (← named? rest)
    | "pdaValueNode" =>
      let record ← rest.record? ["pda", "seeds"]
      let seed := seedValue? (InputValue.read bound)
      return .pda { pda := ← record.required? "pda" PdaReference.ofPart?
                    seeds := ← record.withDefault? "seeds" (toList? seed) [] }
    | "publicKeyValueNode" =>
      let record ← rest.record? ["publicKey"]
      return .publicKey (← record.required? "publicKey" toText?)
    | "programIdValueNode" => if rest.isUnit then return .programId else none
    | "identityValueNode" => if rest.isUnit then return .identity else none
    | "payerValueNode" => if rest.isUnit then return .payer else none
    | "conditionalValueNode" =>
      let record ← rest.record? ["condition", "ifTrue", "ifFalse"]
      return .conditional (← record.required? "condition" (InputValue.read bound))
        (← record.optional? "ifTrue" (InputValue.read bound))
        (← record.optional? "ifFalse" (InputValue.read bound))
    | "numberValueNode" =>
      let record ← rest.record? ["number"]
      return .number (← record.required? "number" toNumber?)
    | "stringValueNode" =>
      let record ← rest.record? ["string"]
      return .string (← record.required? "string" toText?)
    | "booleanValueNode" =>
      let record ← rest.record? ["boolean"]
      return .boolean (← record.required? "boolean" toBool?)
    | "bytesValueNode" => return .bytes (← BytesValue.ofJson? rest)
    | _ => if rest.isUnit then return .unsupported else none

/-- The input value that a document describes. -/
def InputValue.ofJson? (json : Json) : Option InputValue := do
  let json ← json.standalone?
  InputValue.read (← json.depth?) json

/-! ## Programs and their parts -/

/-- A discriminator, which is never part of another node of several kinds. -/
def Discriminator.ofJson? (json : Json) : Option Discriminator := do
  let (kind, rest) ← (← json.standalone?).tagged? []
  match kind with
  | "constantDiscriminatorNode" =>
    let record ← rest.record? ["constant", "offset"]
    return .constant (← record.required? "constant" ValueNode.ofPart?)
      (← record.withDefault? "offset" toNat? 0)
  | "fieldDiscriminatorNode" =>
    let record ← rest.record? ["name", "offset"]
    return .field (← record.required? "name" toText?) (← record.withDefault? "offset" toNat? 0)
  | "sizeDiscriminatorNode" =>
    let record ← rest.record? ["size"]
    return .size (← record.required? "size" toNat?)
  | _ => none

/-- An account. -/
def Account.ofJson? (json : Json) : Option Account := do
  let record ← json.record? ["name", "size", "docs", "data", "pda", "discriminators"]
  return {
    name := ← record.required? "name" toText?
    size := ← record.optional? "size" toNat?
    docs := ← record.withDefault? "docs" toTexts? []
    data := ← record.required? "data" TypeNode.ofJson?
    pda := ← record.optional? "pda" named?
    discriminators := ← record.withDefault? "discriminators" (toList? Discriminator.ofJson?) [] }

/-- Whether an account has to sign. -/
def Signer.ofJson? : Json → Option Signer
  | .bool required => some (.flag required)
  | json => if json.constantName? = some "either" then some .either else none

/-- An account of an instruction. -/
def InstructionAccount.ofJson? (json : Json) : Option InstructionAccount := do
  let record ← json.record?
    ["name", "isWritable", "isSigner", "isOptional", "docs", "defaultValue"]
  return {
    name := ← record.required? "name" toText?
    isWritable := ← record.withDefault? "isWritable" toBool? false
    isSigner := ← record.withDefault? "isSigner" Signer.ofJson? (.flag false)
    isOptional := ← record.withDefault? "isOptional" toBool? false
    docs := ← record.withDefault? "docs" toTexts? []
    defaultValue := ← record.optional? "defaultValue" InputValue.ofJson? }

/-- An argument of an instruction. -/
def Argument.ofJson? (json : Json) : Option Argument := do
  let record ← json.record? ["name", "type", "docs", "defaultValue"]
  return { name := ← record.required? "name" toText?
           type := ← record.required? "type" TypeNode.ofJson?
           docs := ← record.withDefault? "docs" toTexts? []
           defaultValue := ← record.optional? "defaultValue" ValueNode.ofJson? }

/-- An instruction. -/
def Instruction.ofJson? (json : Json) : Option Instruction := do
  let record ← json.record? ["name", "docs", "accounts", "arguments", "discriminators"]
  return {
    name := ← record.required? "name" toText?
    docs := ← record.withDefault? "docs" toTexts? []
    accounts := ← record.withDefault? "accounts" (toList? InstructionAccount.ofJson?) []
    arguments := ← record.withDefault? "arguments" (toList? Argument.ofJson?) []
    discriminators := ← record.withDefault? "discriminators" (toList? Discriminator.ofJson?) [] }

/-- A defined type. -/
def DefinedType.ofJson? (json : Json) : Option DefinedType := do
  let record ← json.record? ["name", "type", "docs"]
  return { name := ← record.required? "name" toText?
           type := ← record.required? "type" TypeNode.ofJson?
           docs := ← record.withDefault? "docs" toTexts? [] }

/-- The number of an error, which fits in 32 bits. -/
def errorNumber? (json : Json) : Option Nat :=
  json.toNat?.filter (· < Nat.pow 2 32)

/-- An error. -/
def ErrorCode.ofJson? (json : Json) : Option ErrorCode := do
  let record ← json.record? ["name", "code", "message", "docs"]
  return { name := ← record.required? "name" toText?
           code := ← record.required? "code" errorNumber?
           message := ← record.withDefault? "message" toText? ""
           docs := ← record.withDefault? "docs" toTexts? [] }

/-- A program. -/
def Program.ofJson? (json : Json) : Option Program := do
  let record ← json.record? ["name", "publicKey", "version", "origin", "docs", "accounts",
    "instructions", "definedTypes", "pdas", "errors"]
  return {
    name := ← record.required? "name" toText?
    publicKey := ← record.required? "publicKey" toText?
    version := ← record.withDefault? "version" toText? ""
    origin := ← record.optional? "origin" toText?
    docs := ← record.withDefault? "docs" toTexts? []
    accounts := ← record.withDefault? "accounts" (toList? Account.ofJson?) []
    instructions := ← record.withDefault? "instructions" (toList? Instruction.ofJson?) []
    definedTypes := ← record.withDefault? "definedTypes" (toList? DefinedType.ofJson?) []
    pdas := ← record.withDefault? "pdas" (toList? Pda.ofJson?) []
    errors := ← record.withDefault? "errors" (toList? ErrorCode.ofJson?) [] }

/-- A description. -/
def Root.ofJson? (json : Json) : Option Root := do
  let record ← json.record? ["standard", "version", "program", "additionalPrograms"]
  return {
    standard := ← record.withDefault? "standard" toText? ""
    version := ← record.withDefault? "version" toText? ""
    program := ← record.required? "program" Program.ofJson?
    additionalPrograms :=
      ← record.withDefault? "additionalPrograms" (toList? Program.ofJson?) [] }

end DartClient.Idl
