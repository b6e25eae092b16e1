import DartClient.Proofs.Client.Cut
import DartClient.Proofs.Client.Faults

/-!
# Every node becomes exactly one unit

The nodes of a program that make units are told here by the description alone, without going through
the program and keeping a record of names: each declaration is one, and a derived address that an
account introduces on the spot, since it defaults to it and holds the derivation itself, is one if
its name is neither declared nor was introduced by an account in front, of an earlier instruction or
of the same one.

The units of a description are these nodes, the main program first and then the others, in order,
each of them once, and each of them is reached through the program that it belongs to. So generating
a unit never fails for want of a program.

## Main definitions

* `introducedPdas`: the derived addresses that accounts introduce.
* `Idl.Program.firstIntroduced`: those that the accounts of an instruction introduce first.
* `Idl.Program.nodes`: the nodes of a program that make units.

## Main results

* `newPdas_introducedPdas`: the record of names keeps the first of each name.
* `content_units`: the units of a program are its nodes.
* `units_eq_nodes`: the units of a description are the nodes of its programs.
-/

namespace DartClient

open Idl (Root Program Instruction InstructionAccount Pda)

/-! ## Nodes -/

/-- The derived addresses that accounts introduce on the spot. Such an account defaults to a derived
address, and how it is derived stands with the account. -/
def introducedPdas (accounts : List InstructionAccount) : List Pda :=
  accounts.flatMap fun account =>
    match account.defaultValue with
    | some (.pda ⟨.inline pda, _⟩) => [pda]
    | _ => []

namespace Idl.Program

/-- The names that are taken for the account at a position of the instruction at an index: those
that are declared, and those that the accounts of earlier instructions, or the accounts in front of
it, introduce. -/
def namesBefore (program : Program) (index : Nat) (instruction : Instruction) (position : Nat) :
    List String :=
  (program.pdas ++
    introducedPdas ((program.instructions.take index).flatMap (·.accounts)) ++
    introducedPdas (instruction.accounts.take position)).map (·.name)

/-- The derived addresses that the accounts of the instruction at an index introduce on the spot and
that have a name of their own by then. -/
def firstIntroduced (program : Program) (index : Nat) (instruction : Instruction) : List Pda :=
  instruction.accounts.zipIdx.flatMap fun (account, position) =>
    (introducedPdas [account]).filter fun pda =>
      pda.name ∉ program.namesBefore index instruction position

/-- The nodes of a program that make units, in order. -/
def nodes (program : Program) : List UnitContent :=
  [.program] ++ (if program.errors.isEmpty then [] else [.errors]) ++
  program.accounts.map .account ++ program.definedTypes.map .definedType ++
  program.pdas.map .pda ++
  program.instructions.zipIdx.flatMap fun (instruction, index) =>
    .instruction instruction :: (program.firstIntroduced index instruction).map .pda

end Idl.Program

/-! ## Introducing derived addresses -/

section Introduced

variable {account : InstructionAccount} {accounts others : List InstructionAccount}

theorem introducedPdas_append :
    introducedPdas (accounts ++ others) = introducedPdas accounts ++ introducedPdas others :=
  List.flatMap_append

theorem introducedPdas_cons (account : InstructionAccount) (accounts : List InstructionAccount) :
    introducedPdas (account :: accounts) = introducedPdas [account] ++ introducedPdas accounts :=
  @introducedPdas_append [account] accounts

/-- An account introduces one derived address at most. -/
theorem introducedPdas_singleton (account : InstructionAccount) :
    introducedPdas [account] = account.inlinePda?.toList := by
  unfold introducedPdas Idl.InstructionAccount.inlinePda?
  rw [List.flatMap_singleton]
  generalize account.defaultValue = default
  rcases default with _ | value
  · rfl
  · cases value with
    | pda value =>
      obtain ⟨reference, seeds⟩ := value
      cases reference <;> rfl
    | _ => rfl

theorem inlinePdas_eq (instruction : Instruction) :
    instruction.inlinePdas = introducedPdas instruction.accounts := by
  unfold Idl.Instruction.inlinePdas
  induction instruction.accounts with
  | nil => rfl
  | cons account accounts ih =>
    rw [introducedPdas_cons, introducedPdas_singleton, List.filterMap_cons, ih]
    cases account.inlinePda? <;> rfl

end Introduced

/-! ## The record of names -/

variable {known : List String} {pdas : List Pda}

/-- The record holds the names that it held before and all names that were met. -/
theorem mem_newPdas_snd {name : String} : ∀ {known : List String},
    name ∈ (newPdas known pdas).2 ↔ name ∈ known ∨ name ∈ pdas.map (·.name) := by
  -- A name that is met goes into the record whether it is new or not, so no case is needed.
  induction pdas with
  | nil => simp [newPdas]
  | cons pda pdas ih =>
    intro known
    rw [newPdas_cons, ih, List.mem_insert_iff, List.map_cons, List.mem_cons, or_left_comm, or_assoc]

/-- **The record keeps the first of each name.** Behind accounts whose names it holds beside those
that are taken, it keeps what has a name that neither is taken nor introduced in front of it. -/
theorem newPdas_introducedPdas {taken : List String} {accounts : List InstructionAccount} :
    ∀ {known : List String} {front : List InstructionAccount},
      (∀ name, name ∈ known ↔ name ∈ taken ∨ name ∈ (introducedPdas front).map (·.name)) →
      (newPdas known (introducedPdas accounts)).1 =
        (accounts.zipIdx front.length).flatMap fun (account, position) =>
          (introducedPdas [account]).filter fun pda => pda.name ∉ taken ++
            (introducedPdas ((front ++ accounts).take position)).map (·.name) := by
  -- The front takes up one account after the other, and the record takes up its name.
  induction accounts with
  | nil =>
    intro known front _
    rfl
  | cons account accounts ih =>
    intro known front hknown
    have hfront : front ++ account :: accounts = (front ++ [account]) ++ accounts := by simp
    have hlength : front.length + 1 = (front ++ [account]).length := by simp
    have hhead : ∀ name, name ∈ taken ++
        (introducedPdas ((front ++ account :: accounts).take front.length)).map (·.name) ↔
          name ∈ known := by
      intro name
      rw [List.take_left, List.mem_append, hknown]
    rw [List.zipIdx_cons, List.flatMap_cons, introducedPdas_cons account accounts, hlength]
    simp only [hhead]
    rw [hfront]
    cases hpda : account.inlinePda? with
    | none =>
      have hnone : introducedPdas [account] = [] := by rw [introducedPdas_singleton, hpda]; rfl
      have hmet : ∀ name, name ∈ known ↔
          name ∈ taken ∨ name ∈ (introducedPdas (front ++ [account])).map (·.name) := by
        intro name
        rw [introducedPdas_append, hnone, List.append_nil, hknown]
      rw [hnone, List.nil_append, ih hmet, List.filter_nil, List.nil_append]
    | some pda =>
      have hone : introducedPdas [account] = [pda] := by rw [introducedPdas_singleton, hpda]; rfl
      have hmet : ∀ name, name ∈ known.insert pda.name ↔
          name ∈ taken ∨ name ∈ (introducedPdas (front ++ [account])).map (·.name) := by
        intro name
        rw [introducedPdas_append, hone, List.mem_insert_iff, hknown, List.map_append,
          List.map_singleton, List.mem_append, List.mem_singleton, or_comm, or_assoc]
      rw [hone, List.singleton_append, newPdas_cons, ih hmet, List.filter_cons, List.filter_nil]
      by_cases hmem : pda.name ∈ known <;> simp [hmem]

/-- An instruction keeps those derived addresses that it is the first to introduce. -/
theorem newPdas_inlinePdas {program : Program} {earlier later : List Instruction}
    {instruction : Instruction} (hinstructions : program.instructions = earlier ++ later)
    (hknown : ∀ name, name ∈ known ↔
      name ∈ (program.pdas ++ introducedPdas (earlier.flatMap (·.accounts))).map (·.name)) :
    (newPdas known instruction.inlinePdas).1 =
      program.firstIntroduced earlier.length instruction := by
  have htaken : ∀ name, name ∈ known ↔
      name ∈ (program.pdas ++ introducedPdas (earlier.flatMap (·.accounts))).map (·.name) ∨
        name ∈ (introducedPdas []).map (·.name) := by
    intro name
    rw [hknown]
    exact (or_iff_left List.not_mem_nil).symm
  have hearlier : program.instructions.take earlier.length = earlier := by
    rw [hinstructions, List.take_left]
  rw [inlinePdas_eq, newPdas_introducedPdas htaken, Idl.Program.firstIntroduced]
  simp only [Idl.Program.namesBefore, hearlier, List.map_append, List.nil_append, List.length_nil]

/-! ## Units -/

/-- Behind earlier instructions, whose derived addresses are in the record, the units of
instructions are their nodes. -/
theorem content_instructionUnits {program : Program} {path : List PathNode}
    {later : List Instruction} : ∀ {known : List String} {earlier : List Instruction},
    program.instructions = earlier ++ later →
    (∀ name, name ∈ known ↔
      name ∈ (program.pdas ++ introducedPdas (earlier.flatMap (·.accounts))).map (·.name)) →
    (instructionUnits path known later).map (·.content) =
      (later.zipIdx earlier.length).flatMap fun (instruction, index) =>
        .instruction instruction :: (program.firstIntroduced index instruction).map .pda := by
  -- The earlier instructions are those of the program, so that positions in it can be told; they
  -- take up one instruction at each step.
  induction later with
  | nil =>
    intro known earlier _ _
    rfl
  | cons instruction later ih =>
    intro known earlier hinstructions hknown
    have hkept : (newPdas known instruction.inlinePdas).1 =
        program.firstIntroduced earlier.length instruction :=
      newPdas_inlinePdas hinstructions hknown
    have hnext : program.instructions = (earlier ++ [instruction]) ++ later := by
      rw [hinstructions, List.append_assoc, List.singleton_append]
    have hrecord : ∀ name, name ∈ (newPdas known instruction.inlinePdas).2 ↔
        name ∈ (program.pdas ++
          introducedPdas ((earlier ++ [instruction]).flatMap (·.accounts))).map (·.name) := by
      intro name
      rw [mem_newPdas_snd, hknown, inlinePdas_eq]
      simp only [List.flatMap_append, List.flatMap_singleton, introducedPdas_append, List.map_append,
        List.mem_append, or_assoc]
    have hrest := ih hnext hrecord
    rw [List.length_append, List.length_singleton] at hrest
    rw [List.zipIdx_cons, List.flatMap_cons, ← hrest, instructionUnits_cons, List.map_cons,
      List.map_append, List.map_map, hkept]
    rfl

/-- **The units of a program are its nodes.** -/
theorem content_units (program : Program) (path : List PathNode) :
    (program.units path).map (·.content) = program.nodes := by
  have hinstructions := @content_instructionUnits program (path ++ [.program program])
    program.instructions (program.pdas.map (·.name)) [] rfl (by simp [introducedPdas])
  rw [List.length_nil] at hinstructions
  simp only [Idl.Program.units, Idl.Program.nodes, List.map_append, List.map_map, hinstructions,
    Function.comp_def, apply_ite (List.map ClientUnit.content), List.map_cons, List.map_nil]

/-- **Every node becomes exactly one unit.** The units of a description are the nodes of its
programs, of the main one first and then of the others in their order, and each unit is reached
through the program that its node belongs to. So generating a unit never fails for want of a
program. -/
theorem units_eq_nodes (root : Root) (dictionary : Dictionary) (settings : Settings) :
    root.units.map (fun part => (part.program?, part.content)) =
      ((root.program :: root.additionalPrograms).flatMap fun program =>
        program.nodes.map fun node => (some program, node)) ∧
    ∀ part ∈ root.units, ∀ place,
      part.generate dictionary settings ≠ .error (.missingProgram place) := by
  constructor
  · rw [Idl.Root.units, Idl.Root.programs, List.map_flatMap]
    congr 1
    funext program
    rw [← content_units program [.root root], List.map_map]
    refine List.map_congr_left fun part hpart => ?_
    rw [(liesIn_of_mem_units hpart).program?_eq]
    rfl
  · intro part hpart
    obtain ⟨program, -, hprogram⟩ := exists_program_of_mem_units hpart
    exact ClientUnit.inside_generate hprogram dictionary settings

/-- A derived address without seeds. -/
def barePda (name : String) : Pda := ⟨name, [], [], none⟩

/-- An instruction whose accounts introduce derived addresses of some names. -/
def introducing (name : String) (pdas : List String) : Instruction where
  name := name
  docs := []
  accounts := pdas.map fun pda =>
    { name := pda
      isWritable := false
      isSigner := .flag false
      isOptional := false
      docs := []
      defaultValue := some (.pda ⟨.inline (barePda pda), []⟩) }
  arguments := []
  discriminators := []

/-- A program that introduces a name that it declares and another one three times, and a second
program that introduces the latter once more. -/
def lockers : Root where
  standard := "codama"
  version := "1.0.0"
  program := { Idl.Program.ofTypes "vault" [⟨"coin", .boolean ⟨.u8, .little⟩, []⟩] with
    pdas := [barePda "safe"]
    errors := [⟨"locked", 6000, "The safe is locked", []⟩]
    instructions := [introducing "open" ["safe", "till", "till"],
      introducing "close" ["till", "drawer"]] }
  additionalPrograms := [{ Idl.Program.ofTypes "bank" [] with
    instructions := [introducing "open" ["till"]] }]

/-- The declared name makes no second unit, the other one makes one unit in each program, behind the
instruction that introduces it first. -/
theorem units_eq_nodes_lockers : lockers.units.map ClientUnit.name =
    ["vault::program", "vault::errors", "vault::types::coin", "vault::pdas::safe",
      "vault::instructions::open", "vault::pdas::till", "vault::instructions::close",
      "vault::pdas::drawer", "bank::program", "bank::instructions::open", "bank::pdas::till"] := by
  -- A unit is called after its program and its content.
  let nameOf (node : Option Program × UnitContent) : String :=
    ClientUnit.name ⟨(node.1.map PathNode.program).toList, node.2⟩
  have hname (part : ClientUnit) : part.name = nameOf (part.program?, part.content) := by
    unfold nameOf ClientUnit.name
    cases part.program? <;> rfl
  have hunits := congrArg (List.map nameOf) (units_eq_nodes lockers .empty .default).1
  rw [List.map_map] at hunits
  rw [List.map_congr_left fun part _ => hname part]
  refine hunits.trans ?_
  decide +kernel

end DartClient
