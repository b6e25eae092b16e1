import DartClient.Address.Sha256
import DartClient.Idl.Literal
import DartClient.Idl.Program

/-!
# Discriminators

The bytes by which the data of an account or the arguments of an instruction are told apart from
others. A declared constant wins over the default value of a field, which wins over the hash of
the name.

## Main definitions

* `Discriminator`: the bytes, and where they come from.
* `Candidates.discriminator`: the choice.
* `Discriminator.ofAccount`, `Discriminator.ofInstruction`: those of accounts and instructions.
-/

namespace DartClient

open Idl (TypeNode ValueNode StructField NumberFormat)

/-- Where the bytes of a discriminator come from. -/
inductive DiscriminatorOrigin where
  /-- A declared constant. -/
  | constant
  /-- The default value of a field. -/
  | field (name : String)
  /-- The hash of the name. -/
  | hash
  deriving DecidableEq, Repr

/-- The bytes by which data is told apart from other data. -/
structure Discriminator where
  /-- The bytes. -/
  bytes : List UInt8
  /-- Where they come from. -/
  origin : DiscriminatorOrigin
  deriving DecidableEq, Repr

namespace Discriminator

/-- The field that carries the bytes, if there is one. -/
def field? (discriminator : Discriminator) : Option String :=
  match discriminator.origin with
  | .field name => some name
  | .constant | .hash => none

/-- Whether a field carries the bytes. -/
def isCarried (discriminator : Discriminator) : Bool := discriminator.field?.isSome

end Discriminator

/-- The field that carries the discriminator where nothing else is declared. -/
def discriminatorField : String := "discriminator"

/-- The number of bytes taken from a hash. -/
def hashedDiscriminatorLength : Nat := 8

/-- The first bytes of the hash of a name in a namespace. -/
def hashDiscriminator (space name : String) : List UInt8 :=
  (Sha256.hash (Text.Utf8.encode (space ++ ":" ++ name))).take hashedDiscriminatorLength

/-- The format in which a number of a type is written: that of the number type, also where the
type has a fixed size, and one byte for all other types. -/
def discriminatorFormat : TypeNode → NumberFormat
  | .number type => type.format
  | .fixedSize inner _ => discriminatorFormat inner
  | _ => .u8

/-- The bytes of a value as a discriminator. -/
def discriminatorBytes (place : String) :
    ValueNode → Option TypeNode → Except ClientError (List UInt8)
  | .constant type value, _ => discriminatorBytes place value (some type)
  | .bytes value, _ => value.decode place
  | .string value, _ => .ok (Text.Utf8.encode value)
  | .array items, _ => Idl.listBytes place items
  | .number value, type => Idl.numberBytes place value ((type.map discriminatorFormat).getD .u8)
  | value, _ => .error (.unsupportedValue place value.kind .notDiscriminator)

/-- What the discriminator of an account or instruction is chosen from. -/
structure Candidates where
  /-- The namespace of the name. -/
  space : String
  /-- The name. -/
  name : String
  /-- What is declared. -/
  declared : List Idl.Discriminator
  /-- The fields, which may have default values. -/
  fields : List StructField

namespace Candidates

/-- The place that messages name. -/
def place (candidates : Candidates) : String := candidates.space ++ ":" ++ candidates.name

/-- The declared constants, in order. -/
def constants (candidates : Candidates) : List ValueNode :=
  candidates.declared.filterMap fun
    | .constant value _ => some value
    | .field _ _ | .size _ => none

/-- The names of the fields that may carry the discriminator, in order. -/
def fieldNames (candidates : Candidates) : List String :=
  (candidates.declared.filterMap fun
    | .field name _ => some name
    | .constant _ _ | .size _ => none) ++ [discriminatorField]

/-- The first field of a name with its default value, if it has one. -/
def carrier? (candidates : Candidates) (name : String) : Option (StructField × ValueNode) := do
  let field ← candidates.fields.find? (·.name == name)
  return (field, ← field.defaultValue)

/-- The discriminator. -/
def discriminator (candidates : Candidates) : Except ClientError Discriminator :=
  match candidates.constants with
  | value :: _ => do return ⟨← discriminatorBytes candidates.place value none, .constant⟩
  | [] =>
    match candidates.fieldNames.findSome? candidates.carrier? with
    | some (field, value) => do
      return ⟨← discriminatorBytes candidates.place value (some field.type), .field field.name⟩
    | none => .ok ⟨hashDiscriminator candidates.space candidates.name, .hash⟩

end Candidates

/-- What the discriminator of an account is chosen from. -/
def Candidates.ofAccount (account : Idl.Account) : Candidates where
  space := "account"
  name := account.name
  declared := account.discriminators
  fields := account.data.structFields?.getD []

/-- What the discriminator of an instruction is chosen from. -/
def Candidates.ofInstruction (instruction : Idl.Instruction) : Candidates where
  space := "global"
  name := instruction.name
  declared := instruction.discriminators
  fields := instruction.arguments.map Idl.Argument.toField

/-- The discriminator of an account. -/
def Discriminator.ofAccount (account : Idl.Account) : Except ClientError Discriminator :=
  (Candidates.ofAccount account).discriminator

/-- The discriminator of an instruction. -/
def Discriminator.ofInstruction (instruction : Idl.Instruction) :
    Except ClientError Discriminator :=
  (Candidates.ofInstruction instruction).discriminator

end DartClient
