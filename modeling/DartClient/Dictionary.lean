import Std.Data.ExtTreeMap
import DartClient.Idl.Program
import DartClient.Naming

/-!
# The dictionary of linkable nodes

Everything that a link can name: the defined types and derived addresses of each program. The
dictionary only grows; the first program of a name stays. Within a program the last node of a name
counts.

## Main definitions

* `Dictionary`: the programs, with `record` and `ofRoot`.
* `Dictionary.program?`, `Dictionary.definedType?`, `Dictionary.pda?`: looking up.
* `DefinedShape`: what a link to a defined type leads to.
-/

namespace DartClient

open Idl (Root Program DefinedType Pda TypeNode)

/-- The nodes of one program that links can name. -/
structure ProgramEntry where
  /-- The name. -/
  name : String
  /-- The address. -/
  publicKey : String
  /-- The defined types, by name. -/
  definedTypes : Std.ExtTreeMap String DefinedType
  /-- The derived addresses, by name. -/
  pdas : Std.ExtTreeMap String Pda
  /-- The names of the accounts. -/
  accounts : List String

/-- The nodes of a program that links can name. -/
def ProgramEntry.ofProgram (program : Program) : ProgramEntry where
  name := program.name
  publicKey := program.publicKey
  definedTypes := .ofList (program.definedTypes.map fun type => (type.name, type))
  pdas := .ofList (program.pdas.map fun pda => (pda.name, pda))
  accounts := program.accounts.map (·.name)

/-- The programs that links can name. -/
structure Dictionary where
  /-- The entries of the programs, by name. -/
  programs : Std.ExtTreeMap String ProgramEntry

namespace Dictionary

/-- No programs. -/
def empty : Dictionary := ⟨∅⟩

/-- Records a program, unless there is one of its name already. -/
def record (dictionary : Dictionary) (program : Program) : Dictionary :=
  ⟨dictionary.programs.insertIfNew program.name (.ofProgram program)⟩

/-- The dictionary of a list of programs. -/
def ofPrograms (programs : List Program) : Dictionary := programs.foldl record empty

/-- The dictionary of a description. -/
def ofRoot (root : Root) : Dictionary := ofPrograms root.programs

/-- The entry of a program. -/
def program? (dictionary : Dictionary) (name : String) : Option ProgramEntry :=
  dictionary.programs[name]?

/-- The defined type that a link leads to from a program. A link may name another program. -/
def definedType? (dictionary : Dictionary) (program name : String)
    (linkedProgram : Option String) : Option DefinedType := do
  (← dictionary.program? (linkedProgram.getD program)).definedTypes[name]?

/-- The derived address of a name that a program declares. -/
def pda? (dictionary : Dictionary) (program name : String) : Option Pda := do
  (← dictionary.program? program).pdas[name]?

end Dictionary

/-- What a link to a defined type leads to. -/
inductive DefinedShape where
  /-- A class of its own. -/
  | struct
  /-- A class for each variant. -/
  | enum (variants : List String)
  /-- Another name for a type. -/
  | synonym
  deriving DecidableEq, Repr

/-- What a link to a type leads to. -/
def DefinedShape.ofType : TypeNode → DefinedShape
  | .struct _ => .struct
  | .enum variants _ => .enum (variants.map fun variant => className variant.name)
  | _ => .synonym

end DartClient
