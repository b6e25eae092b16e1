import DartClient.Page.Data

/-!
# Pages of instructions

An instruction has one page with the function that builds it and, if it has arguments, the class
of their values. The class begins with the discriminator, unless one of the arguments carries it,
and its factory checks the lengths that are fixed.

## Main definitions

* `ArgumentClass`: the class of the arguments.
* `Resolver.instructionPage`: the page.
-/

namespace DartClient

open Idl (Instruction Program)

/-- The alias of the module with instructions. -/
def encoderAlias : String := "solanaEncoder"

/-- The field for a discriminator that no argument carries. -/
def discriminatorManifest (discriminator : Discriminator) : FieldManifest where
  name := discriminatorField
  sourceName := discriminatorField
  targetType := "Uint8List"
  codec := .bytes (.fixed discriminator.bytes.length)
  docs := []
  defaultValue := none

/-- Whether a field carries the discriminator, or takes its place. -/
def FieldManifest.carries (field : FieldManifest) (discriminator : Discriminator) : Bool :=
  field.sourceName == discriminatorField || discriminator.field? == some field.sourceName

/-- The length itself, and what is demanded of a field with it. -/
def FixedLength.demand : FixedLength → Nat × String
  | .bytes size => (size, "must be exactly " ++ toString size ++ " bytes")
  | .elements count => (count, "must have exactly " ++ toString count ++ " elements")

/-- The statement that checks a length that is fixed. -/
def FieldManifest.lengthCheck? (field : FieldManifest) : Option String :=
  field.fixedLength?.map fun length =>
    let (count, demand) := length.demand
    "if (" ++ field.name ++ ".length != " ++ toString count ++ ") throw ArgumentError('" ++
      field.name ++ " " ++ demand ++ ", got $\x7b" ++ field.name ++ ".length\x7d');"

/-- The class of the arguments of an instruction. -/
structure ArgumentClass where
  /-- The instruction. -/
  instruction : Instruction
  /-- The manifest of the arguments. -/
  manifest : Manifest
  /-- The discriminator. -/
  discriminator : Discriminator

namespace ArgumentClass

/-- The name of the class. -/
def name (cls : ArgumentClass) : String := instructionDataClass cls.instruction.name

/-- The arguments as fields. -/
def arguments (cls : ArgumentClass) : List FieldManifest := cls.manifest.fields?.getD []

/-- Whether the class has a field of its own for the discriminator. -/
def isFramed (cls : ArgumentClass) : Bool :=
  !cls.arguments.any (·.carries cls.discriminator)

/-- The fields. -/
def fields (cls : ArgumentClass) : List FieldManifest :=
  if cls.isFramed then discriminatorManifest cls.discriminator :: cls.arguments
  else cls.arguments

/-- The class with annotated fields. -/
def record (cls : ArgumentClass) : RecordClass where
  name := cls.name
  docs := []
  fields := cls.fields
  constants :=
    ["static final DISCRIMINATOR = " ++ byteListLiteral cls.discriminator.bytes ++ ";"]
  checks := cls.fields.filterMap FieldManifest.lengthCheck?
  reader := none
  members := []

/-- The items: the class, and the classes beside it. -/
def items (cls : ArgumentClass) : List Item :=
  .record cls.record :: cls.manifest.declarations.flatMap declarationItems

/-- The symbols of the items. -/
def symbols (cls : ArgumentClass) : List String :=
  classSymbols cls.name ++ cls.manifest.declarations.flatMap declarationSymbols

end ArgumentClass

namespace Resolver

/-- The class of the arguments of an instruction, if it has any. -/
def argumentClass? (resolver : Resolver) (instruction : Instruction)
    (discriminator : Discriminator) : Resolved (Option ArgumentClass) := do
  if instruction.arguments.isEmpty then return none
  let manifest ← resolver.resolveArguments instruction.arguments
    (.root (instructionDataClass instruction.name) .instruction)
  return some ⟨instruction, manifest, discriminator⟩

end Resolver

/-- What the function that builds an instruction needs to import. -/
def builderImports (program : Program) (accounts : List BuilderAccount) : ImportMap :=
  let own := ((ImportMap.empty.add solanaModule [addressSymbol]).add encoderAlias
      ["AccountMeta", "ByteArray", "Instruction"]).add
    (generatedModule "programs" (fileStem program.name)) [programClass program.name]
  accounts.foldl (fun imports account =>
    match account.default with
    | .derived derivation _ => imports.merge derivation.imports
    | _ => imports) own

/-- What the class of the arguments needs to import. -/
def argumentImports : Option ArgumentClass → ImportMap
  | some cls => layoutImports.merge cls.manifest.imports
  | none => ImportMap.empty.add typedDataModule ["Uint8List"]

/-- The page of an instruction with its parts. -/
def instructionPageOf (instruction : Instruction) (accounts : List BuilderAccount)
    (program : Program) (discriminator : Discriminator) (cls : Option ArgumentClass) : Page :=
  let stem := fileStem instruction.name
  let builder : Builder :=
    ⟨instruction, accounts, programClass program.name, discriminator.bytes⟩
  .ofSource (generatedModule "instructions" stem)
    ((builderImports program accounts).merge (argumentImports cls))
    ((cls.map ArgumentClass.symbols).getD [] ++ [builder.name])
    { exports := none
      part := cls.map fun _ => stem
      items := (cls.map ArgumentClass.items).getD [] ++ [.builder builder] }

/-- The page of an instruction whose accounts have been given defaults. -/
def Resolver.instructionPage (resolver : Resolver) (instruction : Instruction)
    (accounts : List BuilderAccount) (program : Program) : Resolved Rendering := do
  let discriminator ← Discriminator.ofInstruction instruction
  let cls ← resolver.argumentClass? instruction discriminator
  return ⟨[instructionPageOf instruction accounts program discriminator cls],
    (cls.map (·.manifest.diagnostics)).getD []⟩

end DartClient
