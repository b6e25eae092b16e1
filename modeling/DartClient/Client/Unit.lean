import DartClient.Idl.Program

/-!
# Units of a client

A description is cut into units that are generated one by one: each program, its errors, accounts,
defined types and derived addresses, and its instructions, each of them followed by the derived
addresses that its accounts introduce on the spot. Of several derived addresses of one name in a
program only the first introduction makes a unit, and none where the program declares the name.

## Main definitions

* `PathNode`, `ClientUnit`: a unit, and the nodes that lead to it.
* `ClientUnit.name`: how a unit is called.
* `Idl.Program.units`, `Idl.Root.units`: the units of programs and descriptions.
-/

namespace DartClient

open Idl (Root Program Account Instruction InstructionAccount DefinedType Pda)

/-- A node on the way from the description to a unit. -/
inductive PathNode where
  /-- The description. -/
  | root (root : Root)
  /-- A program. -/
  | program (program : Program)
  /-- An account. -/
  | account (account : Account)
  /-- An instruction. -/
  | instruction (instruction : Instruction)
  /-- A defined type. -/
  | definedType (type : DefinedType)
  /-- A derived address. -/
  | pda (pda : Pda)

/-- What a unit generates. -/
inductive UnitContent where
  /-- An account. -/
  | account (account : Account)
  /-- An instruction. -/
  | instruction (instruction : Instruction)
  /-- A defined type. -/
  | definedType (type : DefinedType)
  /-- A derived address. -/
  | pda (pda : Pda)
  /-- The constants of the program. -/
  | program
  /-- The errors of the program. -/
  | errors

/-- A part of a client that is generated on its own. -/
structure ClientUnit where
  /-- The nodes that lead to it, from the description on. -/
  path : List PathNode
  /-- What it generates. -/
  content : UnitContent

/-- The program of a node that is one. -/
def PathNode.program? : PathNode → Option Program
  | .program node => some node
  | _ => none

namespace ClientUnit

/-- The closest program on the way to a unit. -/
def program? (part : ClientUnit) : Option Program :=
  part.path.reverse.findSome? PathNode.program?

/-- How a unit is called. -/
def name (part : ClientUnit) : String :=
  let program := (part.program?.map (·.name)).getD "<none>"
  program ++ match part.content with
  | .account account => "::accounts::" ++ account.name
  | .instruction instruction => "::instructions::" ++ instruction.name
  | .definedType type => "::types::" ++ type.name
  | .pda pda => "::pdas::" ++ pda.name
  | .program => "::program"
  | .errors => "::errors"

end ClientUnit

/-- The derived address that an account introduces on the spot. -/
def Idl.InstructionAccount.inlinePda? (account : InstructionAccount) : Option Pda :=
  match account.defaultValue with
  | some (.pda ⟨.inline pda, _⟩) => some pda
  | _ => none

/-- The derived addresses whose names are new, and all names met so far. -/
def newPdas (known : List String) : List Pda → List Pda × List String
  | [] => ([], known)
  | pda :: pdas =>
    if known.contains pda.name then newPdas known pdas
    else
      let (rest, known) := newPdas (pda.name :: known) pdas
      (pda :: rest, known)

/-- The units of instructions, given the names of derived addresses met so far. -/
def instructionUnits (path : List PathNode) (known : List String) :
    List Instruction → List ClientUnit
  | [] => []
  | instruction :: instructions =>
    let own := path ++ [.instruction instruction]
    let (pdas, known) := newPdas known
      (instruction.accounts.filterMap Idl.InstructionAccount.inlinePda?)
    ⟨own, .instruction instruction⟩ :: pdas.map (fun pda => ⟨own ++ [.pda pda], .pda pda⟩) ++
      instructionUnits path known instructions

/-- The units of a program that some nodes lead to. -/
def Idl.Program.units (program : Program) (path : List PathNode) : List ClientUnit :=
  let path := path ++ [.program program]
  [⟨path, .program⟩] ++
  (if program.errors.isEmpty then [] else [⟨path, .errors⟩]) ++
  program.accounts.map (fun account => ⟨path ++ [.account account], .account account⟩) ++
  program.definedTypes.map (fun type => ⟨path ++ [.definedType type], .definedType type⟩) ++
  program.pdas.map (fun pda => ⟨path ++ [.pda pda], .pda pda⟩) ++
  instructionUnits path (program.pdas.map (·.name)) program.instructions

/-- The units of a description. -/
def Idl.Root.units (root : Root) : List ClientUnit :=
  root.programs.flatMap fun program => program.units [.root root]

end DartClient
