import DartClient.Idl.Program

/-!
# Writing descriptions

The documents of the nodes of an interface description. Only nodes that have to be told apart
carry their kind. Texts, lists and flags are always written, absent optional members never.

## Main definitions

* `TypeNode.toJson`, `ValueNode.toJson`, `InputValue.toJson`: the trees.
* `Root.toJson`, `Program.toJson` and so on: the nodes around them.
-/

namespace DartClient.Idl

/-- A member that is written only if it is there. -/
def optionalMember (name : String) (value : Option Json) : List (String × Json) :=
  match value with
  | none => []
  | some json => [(name, json)]

/-- A list of texts. -/
def textsToJson (texts : List String) : Json := .array (texts.map Json.string)

/-- A natural number. -/
def natToJson (n : Nat) : Json := .number (.int n)

/-- An object that starts with its kind. -/
def taggedObject (kind : String) (members : List (String × Json)) : Json :=
  .object (("kind", .string kind) :: members)

/-- A number type. -/
def NumberType.toJson (type : NumberType) : Json :=
  .object [("format", .string type.format.name), ("endian", .string type.endian.name)]

/-- A count. -/
def Count.toJson : Count → Json
  | .fixed value => taggedObject "fixedCountNode" [("value", natToJson value)]
  | .prefixed width => taggedObject "prefixedCountNode" [("prefix", width.toJson)]
  | .remainder => taggedObject "remainderCountNode" []

/-- The members of bytes written as a text. -/
def BytesValue.members (value : BytesValue) : List (String × Json) :=
  [("data", .string value.data), ("encoding", .string value.encoding.name)]

/-! ## Types and values -/

mutual

/-- A type. -/
def TypeNode.toJson : TypeNode → Json
  | .number type =>
    taggedObject "numberTypeNode"
      [("format", .string type.format.name), ("endian", .string type.endian.name)]
  | .boolean size => taggedObject "booleanTypeNode" [("size", size.toJson)]
  | .string encoding => taggedObject "stringTypeNode" [("encoding", .string encoding.name)]
  | .bytes => taggedObject "bytesTypeNode" []
  | .publicKey => taggedObject "publicKeyTypeNode" []
  | .array item count =>
    taggedObject "arrayTypeNode" [("item", item.toJson), ("count", count.toJson)]
  | .option item flag isFixed =>
    taggedObject "optionTypeNode"
      [("item", item.toJson), ("prefix", flag.toJson), ("fixed", .bool isFixed)]
  | .set item count =>
    taggedObject "setTypeNode" [("item", item.toJson), ("count", count.toJson)]
  | .map key value count =>
    taggedObject "mapTypeNode"
      [("key", key.toJson), ("value", value.toJson), ("count", count.toJson)]
  | .tuple items => taggedObject "tupleTypeNode" [("items", .array (typesToJson items))]
  | .fixedSize inner size =>
    taggedObject "fixedSizeTypeNode" [("type", inner.toJson), ("size", natToJson size)]
  | .sizePrefix inner width =>
    taggedObject "sizePrefixTypeNode" [("type", inner.toJson), ("prefix", width.toJson)]
  | .link name program =>
    taggedObject "definedTypeLinkNode" (("name", .string name) ::
      optionalMember "program" (program.map fun name => .object [("name", .string name)]))
  | .struct fields => taggedObject "structTypeNode" [("fields", .array (fieldsToJson fields))]
  | .enum variants size =>
    taggedObject "enumTypeNode"
      [("variants", .array (variantsToJson variants)), ("size", size.toJson)]
  | .amount number => taggedObject "amountTypeNode" [("number", number.toJson)]
  | .solAmount number => taggedObject "solAmountTypeNode" [("number", number.toJson)]
  | .dateTime number => taggedObject "dateTimeTypeNode" [("number", number.toJson)]
  | .altered kind => taggedObject kind.name []
  | .unknown => taggedObject "Unknown" []

/-- A list of types. -/
def typesToJson : List TypeNode → List Json
  | [] => []
  | type :: types => type.toJson :: typesToJson types

/-- A field. -/
def StructField.toJson : StructField → Json
  | ⟨name, type, docs, defaultValue⟩ =>
    .object ([("name", .string name), ("type", type.toJson), ("docs", textsToJson docs)] ++
      optionalMember "defaultValue" (optionalValueToJson defaultValue))

/-- A list of fields. -/
def fieldsToJson : List StructField → List Json
  | [] => []
  | field :: fields => field.toJson :: fieldsToJson fields

/-- A variant. -/
def EnumVariant.toJson : EnumVariant → Json
  | .empty name => taggedObject "enumEmptyVariantTypeNode" [("name", .string name)]
  | .tuple name items =>
    taggedObject "enumTupleVariantTypeNode"
      [("name", .string name), ("tuple", .object [("items", .array (typesToJson items))])]
  | .struct name fields =>
    taggedObject "enumStructVariantTypeNode"
      [("name", .string name), ("struct", .object [("fields", .array (fieldsToJson fields))])]

/-- A list of variants. -/
def variantsToJson : List EnumVariant → List Json
  | [] => []
  | variant :: variants => variant.toJson :: variantsToJson variants

/-- A value. -/
def ValueNode.toJson : ValueNode → Json
  | .number value => taggedObject "numberValueNode" [("number", .number value)]
  | .string value => taggedObject "stringValueNode" [("string", .string value)]
  | .boolean value => taggedObject "booleanValueNode" [("boolean", .bool value)]
  | .bytes value => taggedObject "bytesValueNode" value.members
  | .publicKey key identifier =>
    taggedObject "publicKeyValueNode" (("publicKey", .string key) ::
      optionalMember "identifier" (identifier.map Json.string))
  | .array items => taggedObject "arrayValueNode" [("items", .array (valuesToJson items))]
  | .tuple items => taggedObject "tupleValueNode" [("items", .array (valuesToJson items))]
  | .absent => taggedObject "noneValueNode" []
  | .present value => taggedObject "someValueNode" [("value", value.toJson)]
  | .constant type value =>
    taggedObject "constantValueNode" [("type", type.toJson), ("value", value.toJson)]
  | .programId => taggedObject "programIdValueNode" []
  | .unsupported => taggedObject "Unsupported" []

/-- A list of values. -/
def valuesToJson : List ValueNode → List Json
  | [] => []
  | value :: values => value.toJson :: valuesToJson values

/-- A value that may be absent. -/
def optionalValueToJson : Option ValueNode → Option Json
  | none => none
  | some value => some value.toJson

end

/-! ## Derived addresses and input values -/

/-- A seed of a derived address. -/
def PdaSeed.toJson : PdaSeed → Json
  | .constant type value =>
    taggedObject "constantPdaSeedNode" [("type", type.toJson), ("value", value.toJson)]
  | .variable name type docs =>
    taggedObject "variablePdaSeedNode"
      [("name", .string name), ("type", type.toJson), ("docs", textsToJson docs)]

/-- The members of a derived address. -/
def Pda.members (pda : Pda) : List (String × Json) :=
  [("name", .string pda.name), ("docs", textsToJson pda.docs),
    ("seeds", .array (pda.seeds.map PdaSeed.toJson))] ++
  optionalMember "programId" (pda.programId.map Json.string)

/-- A derived address. -/
def Pda.toJson (pda : Pda) : Json := .object pda.members

/-- A reference to a derived address. -/
def PdaReference.toJson : PdaReference → Json
  | .link name => taggedObject "pdaLinkNode" [("name", .string name)]
  | .inline pda => taggedObject "pdaNode" pda.members

mutual

/-- An input value. -/
def InputValue.toJson : InputValue → Json
  | .account name => taggedObject "accountValueNode" [("name", .string name)]
  | .argument name => taggedObject "argumentValueNode" [("name", .string name)]
  | .pda ⟨pda, seeds⟩ =>
    taggedObject "pdaValueNode" [("pda", pda.toJson), ("seeds", .array (seedValuesToJson seeds))]
  | .publicKey key => taggedObject "publicKeyValueNode" [("publicKey", .string key)]
  | .programId => taggedObject "programIdValueNode" []
  | .identity => taggedObject "identityValueNode" []
  | .payer => taggedObject "payerValueNode" []
  | .conditional condition ifTrue ifFalse =>
    taggedObject "conditionalValueNode" (("condition", condition.toJson) ::
      (optionalMember "ifTrue" (branchToJson ifTrue) ++
        optionalMember "ifFalse" (branchToJson ifFalse)))
  | .number value => taggedObject "numberValueNode" [("number", .number value)]
  | .string value => taggedObject "stringValueNode" [("string", .string value)]
  | .boolean value => taggedObject "booleanValueNode" [("boolean", .bool value)]
  | .bytes value => taggedObject "bytesValueNode" value.members
  | .unsupported => taggedObject "Unsupported" []

/-- Values for seeds. -/
def seedValuesToJson : List SeedValue → List Json
  | [] => []
  | ⟨name, value⟩ :: seeds =>
    .object [("name", .string name), ("value", value.toJson)] :: seedValuesToJson seeds

/-- A branch that may be absent. -/
def branchToJson : Option InputValue → Option Json
  | none => none
  | some value => some value.toJson

end

/-! ## Programs and their parts -/

/-- A discriminator. -/
def Discriminator.toJson : Discriminator → Json
  | .constant value offset =>
    taggedObject "constantDiscriminatorNode"
      [("constant", value.toJson), ("offset", natToJson offset)]
  | .field name offset =>
    taggedObject "fieldDiscriminatorNode"
      [("name", .string name), ("offset", natToJson offset)]
  | .size bytes => taggedObject "sizeDiscriminatorNode" [("size", natToJson bytes)]

/-- An account. -/
def Account.toJson (account : Account) : Json :=
  .object ([("name", .string account.name)] ++
    optionalMember "size" (account.size.map natToJson) ++
    [("docs", textsToJson account.docs), ("data", account.data.toJson)] ++
    optionalMember "pda" (account.pda.map fun name => .object [("name", .string name)]) ++
    [("discriminators", .array (account.discriminators.map Discriminator.toJson))])

/-- Whether an account has to sign. -/
def Signer.toJson : Signer → Json
  | .flag required => .bool required
  | .either => .string "either"

/-- An account of an instruction. -/
def InstructionAccount.toJson (account : InstructionAccount) : Json :=
  .object ([("name", .string account.name), ("isWritable", .bool account.isWritable),
    ("isSigner", account.isSigner.toJson), ("isOptional", .bool account.isOptional),
    ("docs", textsToJson account.docs)] ++
    optionalMember "defaultValue" (account.defaultValue.map InputValue.toJson))

/-- An argument of an instruction. -/
def Argument.toJson (argument : Argument) : Json :=
  .object ([("name", .string argument.name), ("type", argument.type.toJson),
    ("docs", textsToJson argument.docs)] ++
    optionalMember "defaultValue" (argument.defaultValue.map ValueNode.toJson))

/-- An instruction. -/
def Instruction.toJson (instruction : Instruction) : Json :=
  .object [("name", .string instruction.name), ("docs", textsToJson instruction.docs),
    ("accounts", .array (instruction.accounts.map InstructionAccount.toJson)),
    ("arguments", .array (instruction.arguments.map Argument.toJson)),
    ("discriminators", .array (instruction.discriminators.map Discriminator.toJson))]

/-- A defined type. -/
def DefinedType.toJson (type : DefinedType) : Json :=
  .object [("name", .string type.name), ("type", type.type.toJson),
    ("docs", textsToJson type.docs)]

/-- An error. -/
def ErrorCode.toJson (error : ErrorCode) : Json :=
  .object [("name", .string error.name), ("code", natToJson error.code),
    ("message", .string error.message), ("docs", textsToJson error.docs)]

/-- A program. -/
def Program.toJson (program : Program) : Json :=
  .object ([("name", .string program.name), ("publicKey", .string program.publicKey),
    ("version", .string program.version)] ++
    optionalMember "origin" (program.origin.map Json.string) ++
    [("docs", textsToJson program.docs),
      ("accounts", .array (program.accounts.map Account.toJson)),
      ("instructions", .array (program.instructions.map Instruction.toJson)),
      ("definedTypes", .array (program.definedTypes.map DefinedType.toJson)),
      ("pdas", .array (program.pdas.map Pda.toJson)),
      ("errors", .array (program.errors.map ErrorCode.toJson))])

/-- A description. -/
def Root.toJson (root : Root) : Json :=
  .object [("standard", .string root.standard), ("version", .string root.version),
    ("program", root.program.toJson),
    ("additionalPrograms", .array (root.additionalPrograms.map Program.toJson))]

end DartClient.Idl
