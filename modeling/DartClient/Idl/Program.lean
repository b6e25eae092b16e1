import DartClient.Idl.TypeNode

/-!
# Programs

A description holds one main program and further ones. A program has accounts, instructions,
defined types, derived addresses (PDAs) and errors.

## Main definitions

* `Root`, `Program` and its parts: `Account`, `Instruction`, `DefinedType`, `Pda`, `ErrorCode`.
* `InputValue`: what an instruction account is set to where the caller does not say.
* `Discriminator`: how an account or instruction is told apart from others.
-/

namespace DartClient.Idl

/-- A seed of a derived address. -/
inductive PdaSeed where
  /-- A seed that is always the same. -/
  | constant (type : TypeNode) (value : ValueNode)
  /-- A seed that is given when the address is derived. -/
  | variable (name : String) (type : TypeNode) (docs : List String)

/-- A derived address. -/
structure Pda where
  /-- The name. -/
  name : String
  /-- The lines of its documentation. -/
  docs : List String
  /-- The seeds, in order. -/
  seeds : List PdaSeed
  /-- The deriving program, if it is not the one that declares the address. -/
  programId : Option String

/-- Where the seeds of a default address come from. -/
inductive PdaReference where
  /-- A derived address that the program declares. -/
  | link (name : String)
  /-- A derived address given on the spot. -/
  | inline (pda : Pda)

mutual

/-- What an instruction account is set to where the caller does not say. -/
inductive InputValue where
  /-- Another account of the instruction. -/
  | account (name : String)
  /-- An argument of the instruction. -/
  | argument (name : String)
  /-- A derived address. -/
  | pda (value : PdaValue)
  /-- A given address. -/
  | publicKey (key : String)
  /-- The address of the program. -/
  | programId
  /-- The address of the wallet in use. -/
  | identity
  /-- The address of the wallet that pays. -/
  | payer
  /-- One of two values, by a condition. -/
  | conditional (condition : InputValue) (ifTrue ifFalse : Option InputValue)
  /-- A number. -/
  | number (value : Json.Number)
  /-- A text. -/
  | string (value : String)
  /-- A flag. -/
  | boolean (value : Bool)
  /-- Bytes written as a text. -/
  | bytes (value : BytesValue)
  /-- A value of a kind that is not known. -/
  | unsupported

/-- A derived address with values for its variable seeds. -/
structure PdaValue where
  /-- The derived address. -/
  pda : PdaReference
  /-- The values, by the names of the seeds. -/
  seeds : List SeedValue

/-- A value for a variable seed. -/
structure SeedValue where
  /-- The name of the seed. -/
  name : String
  /-- The value. -/
  value : InputValue

end

/-- How an account or instruction is told apart from others. -/
inductive Discriminator where
  /-- By a constant at an offset. -/
  | constant (value : ValueNode) (offset : Nat)
  /-- By the default value of a field. -/
  | field (name : String) (offset : Nat)
  /-- By the size of the data. -/
  | size (size : Nat)

/-- An account. -/
structure Account where
  /-- The name. -/
  name : String
  /-- The declared size of the data. -/
  size : Option Nat
  /-- The lines of its documentation. -/
  docs : List String
  /-- The type of the data. -/
  data : TypeNode
  /-- The derived address it lives at. -/
  pda : Option String
  /-- The discriminators. -/
  discriminators : List Discriminator

/-- Whether an account has to sign. -/
inductive Signer where
  /-- It has to, or need not. -/
  | flag (required : Bool)
  /-- It may. -/
  | either
  deriving DecidableEq, Repr

/-- Whether an account has to sign whatever the caller says. -/
def Signer.isRequired : Signer → Bool
  | .flag required => required
  | .either => false

/-- An account that an instruction takes. -/
structure InstructionAccount where
  /-- The name. -/
  name : String
  /-- Whether the instruction may change it. -/
  isWritable : Bool
  /-- Whether it has to sign. -/
  isSigner : Signer
  /-- Whether it may be left out. -/
  isOptional : Bool
  /-- The lines of its documentation. -/
  docs : List String
  /-- What it is set to where the caller does not say. -/
  defaultValue : Option InputValue

/-- An argument of an instruction. -/
structure Argument where
  /-- The name. -/
  name : String
  /-- The type. -/
  type : TypeNode
  /-- The lines of its documentation. -/
  docs : List String
  /-- The value it has where none is given. -/
  defaultValue : Option ValueNode

/-- An argument as a field. -/
def Argument.toField (argument : Argument) : StructField :=
  ⟨argument.name, argument.type, argument.docs, argument.defaultValue⟩

/-- An instruction. -/
structure Instruction where
  /-- The name. -/
  name : String
  /-- The lines of its documentation. -/
  docs : List String
  /-- The accounts, in order. -/
  accounts : List InstructionAccount
  /-- The arguments, in order. -/
  arguments : List Argument
  /-- The discriminators. -/
  discriminators : List Discriminator

/-- A type with a name of its own. -/
structure DefinedType where
  /-- The name. -/
  name : String
  /-- The type. -/
  type : TypeNode
  /-- The lines of its documentation. -/
  docs : List String

/-- An error that a program reports by number. -/
structure ErrorCode where
  /-- The name. -/
  name : String
  /-- The number. -/
  code : Nat
  /-- The text shown for it. -/
  message : String
  /-- The lines of its documentation. -/
  docs : List String

/-- A program. -/
structure Program where
  /-- The name. -/
  name : String
  /-- The address. -/
  publicKey : String
  /-- The version. -/
  version : String
  /-- The tool that the description comes from. -/
  origin : Option String
  /-- The lines of its documentation. -/
  docs : List String
  /-- The accounts. -/
  accounts : List Account
  /-- The instructions. -/
  instructions : List Instruction
  /-- The defined types. -/
  definedTypes : List DefinedType
  /-- The derived addresses. -/
  pdas : List Pda
  /-- The errors. -/
  errors : List ErrorCode

/-- A description: a main program and further ones. -/
structure Root where
  /-- The standard that the description follows. -/
  standard : String
  /-- The version of that standard. -/
  version : String
  /-- The main program. -/
  program : Program
  /-- Further programs. -/
  additionalPrograms : List Program

/-- All programs, the main one first. -/
def Root.programs (root : Root) : List Program := root.program :: root.additionalPrograms

/-! ## Input values -/

mutual

/-- Whether a value, with everything inside it, needs nothing but accounts and literals. -/
def InputValue.usesOnlyAccounts : InputValue → Bool
  | .argument _ => false
  | .pda ⟨_, seeds⟩ => seedsUseOnlyAccounts seeds
  | .conditional condition ifTrue ifFalse =>
    condition.usesOnlyAccounts && branchUsesOnlyAccounts ifTrue && branchUsesOnlyAccounts ifFalse
  | _ => true

/-- Whether all seed values need nothing but accounts and literals. -/
def seedsUseOnlyAccounts : List SeedValue → Bool
  | [] => true
  | ⟨_, value⟩ :: seeds => value.usesOnlyAccounts && seedsUseOnlyAccounts seeds

/-- Whether a branch is absent or needs nothing but accounts and literals. -/
def branchUsesOnlyAccounts : Option InputValue → Bool
  | none => true
  | some value => value.usesOnlyAccounts

end

/-- The literal that an input value is, if it is one. -/
def InputValue.literal? : InputValue → Option ValueNode
  | .number value => some (.number value)
  | .string value => some (.string value)
  | .boolean value => some (.boolean value)
  | .bytes value => some (.bytes value)
  | .publicKey key => some (.publicKey key none)
  | _ => none

end DartClient.Idl
