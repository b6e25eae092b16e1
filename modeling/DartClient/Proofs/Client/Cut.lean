import DartClient.Proofs.Client.Dependence

/-!
# Cutting out a unit

Let two descriptions differ in one account or one instruction. Their units are cut at the one that
differs: those in front of it match, and so do those behind. Only the derived addresses are special
which instructions introduce on the spot. The first instruction that has one makes a unit of it, so
a change of one instruction may pass the introduction on to a later one, or take it from there.
Only names are affected that the changed instruction introduces.

## Main definitions

* `Idl.Root.Varies`: descriptions that differ in one account or instruction.
* `Cut`: the units of a description, cut at one of them.
* `Cut.Agrees`: what is in front matches, and what is behind, apart from what is introduced.

## Main results

* `newPdas_agreeBut`: the names met so far matter for derived addresses of those names only.
* `exists_cuts_of_varies`: the units are the same but for the cut one and for what it introduces.
-/

namespace DartClient

open Idl (Root Program Account Instruction Pda)

/-! ## Descriptions that differ in one unit -/

/-- The programs differ in one account or one instruction, which stand at the same place. -/
inductive Idl.Program.Varies : Program → Program → UnitContent → UnitContent → Prop
  | account (program : Program) (front back : List Account) (account account' : Account) :
    Varies { program with accounts := front ++ account :: back }
      { program with accounts := front ++ account' :: back }
      (.account account) (.account account')
  | instruction (program : Program) (front back : List Instruction)
    (instruction instruction' : Instruction) :
    Varies { program with instructions := front ++ instruction :: back }
      { program with instructions := front ++ instruction' :: back }
      (.instruction instruction) (.instruction instruction')

/-- The descriptions differ in one account or one instruction of one of their programs. -/
inductive Idl.Root.Varies : Root → Root → UnitContent → UnitContent → Prop
  | main (root : Root) {program program' : Program} {content content' : UnitContent}
    (h : program.Varies program' content content') :
    Varies { root with program := program } { root with program := program' } content content'
  | additional (root : Root) (front back : List Program) {program program' : Program}
    {content content' : UnitContent} (h : program.Varies program' content content') :
    Varies { root with additionalPrograms := front ++ program :: back }
      { root with additionalPrograms := front ++ program' :: back } content content'

theorem Idl.Program.Varies.sameBase {program program' : Program} {content content' : UnitContent}
    (h : program.Varies program' content content') : program.SameBase program' := by
  cases h <;> exact ⟨rfl, rfl, rfl, rfl, rfl, rfl⟩

section Root

variable {root root' : Root} {content content' : UnitContent}

theorem Idl.Root.Varies.exists_programs (h : root.Varies root' content content') :
    ∃ front program program' back, root.programs = front ++ program :: back ∧
      root'.programs = front ++ program' :: back ∧
      program.Varies program' content content' := by
  cases h with
  | main root h => exact ⟨[], _, _, root.additionalPrograms, rfl, rfl, h⟩
  | additional root front back h => exact ⟨root.program :: front, _, _, back, rfl, rfl, h⟩

theorem Idl.Root.Varies.name_eq (h : root.Varies root' content content') :
    root.program.name = root'.program.name := by
  cases h with
  | main root h => exact h.sameBase.name
  | additional => rfl

theorem Idl.Root.Varies.sameBase (h : root.Varies root' content content') :
    List.Forall₂ Program.SameBase root.programs root'.programs := by
  obtain ⟨front, program, program', back, hprograms, hprograms', hvaries⟩ := h.exists_programs
  have hrefl : ∀ programs : List Program, List.Forall₂ Program.SameBase programs programs :=
    fun programs => List.forall₂_same.mpr fun program _ => .refl program
  rw [hprograms, hprograms']
  exact List.rel_append (hrefl front) (.cons hvaries.sameBase (hrefl back))

end Root

/-! ## Introducing derived addresses -/

/-- The names met so far are the same but for some. -/
def AgreeBut (names known known' : List String) : Prop :=
  ∀ name, name ∉ names → (name ∈ known ↔ name ∈ known')

/-- The first derived address is new unless its name has been met, and has been met from then
on. -/
theorem newPdas_cons (known : List String) (pda : Pda) (pdas : List Pda) :
    newPdas known (pda :: pdas) =
      ((if pda.name ∈ known then [] else [pda]) ++ (newPdas (known.insert pda.name) pdas).1,
        (newPdas (known.insert pda.name) pdas).2) := by
  by_cases hmem : pda.name ∈ known <;> simp [newPdas, hmem]

theorem mem_newPdas_iff {name : String} {pdas : List Pda} : ∀ {known : List String},
    name ∈ (newPdas known pdas).2 ↔
      name ∈ known ∨ name ∈ (newPdas known pdas).1.map Pda.name := by
  -- The names met so far grow with each derived address, so the induction is for all of them.
  induction pdas with
  | nil => simp [newPdas]
  | cons pda pdas ih =>
    intro known
    rw [newPdas_cons, ih, List.mem_insert_iff, List.map_append, List.mem_append]
    by_cases hmem : pda.name ∈ known
    · -- A name that has been met is met once more, which adds nothing to either side.
      rw [if_pos hmem]
      constructor
      · rintro ((rfl | h) | h)
        · exact .inl hmem
        · exact .inl h
        · exact .inr (.inr h)
      · rintro (h | h | h)
        · exact .inl (.inr h)
        · cases h
        · exact .inr h
    · rw [if_neg hmem]
      simp [or_assoc, or_left_comm]

/-- Apart from the names in question, the same derived addresses are new. -/
theorem newPdas_agreeBut {names : List String} {pdas : List Pda} :
    ∀ {known known' : List String}, AgreeBut names known known' →
      (newPdas known pdas).1.filter (fun pda => pda.name ∉ names) =
          (newPdas known' pdas).1.filter (fun pda => pda.name ∉ names) ∧
        AgreeBut names (newPdas known pdas).2 (newPdas known' pdas).2 := by
  induction pdas with
  | nil => exact fun h => ⟨rfl, h⟩
  | cons pda pdas ih =>
    intro known known' h
    -- From here on the name has been met on both sides, even where it was new on one only.
    have hmet : AgreeBut names (known.insert pda.name) (known'.insert pda.name) := by
      intro name hname
      rw [List.mem_insert_iff, List.mem_insert_iff, h name hname]
    obtain ⟨hnew, hknown⟩ := ih hmet
    rw [newPdas_cons, newPdas_cons, List.filter_append, List.filter_append, hnew]
    refine ⟨congrArg (· ++ _) ?_, hknown⟩
    by_cases hname : pda.name ∈ names
    · -- A name in question is dropped, whether it is new or not.
      split <;> split <;> simp [hname]
    · simp only [h pda.name hname]

/-- After the derived addresses of an instruction have been met, the names met so far differ in
those that it introduces. -/
theorem agreeBut_newPdas {names known : List String} {pdas pdas' : List Pda}
    (hpdas : ∀ pda ∈ (newPdas known pdas).1, pda.name ∈ names)
    (hpdas' : ∀ pda ∈ (newPdas known pdas').1, pda.name ∈ names) :
    AgreeBut names (newPdas known pdas).2 (newPdas known pdas').2 := by
  intro name hname
  have hnone : ∀ pdas : List Pda, (∀ pda ∈ pdas, pda.name ∈ names) →
      name ∉ pdas.map Pda.name := by
    intro pdas hpdas hmem
    obtain ⟨pda, hpda, rfl⟩ := List.mem_map.mp hmem
    exact hname (hpdas pda hpda)
  rw [mem_newPdas_iff, mem_newPdas_iff]
  simp [hnone _ hpdas, hnone _ hpdas']

/-! ## Units -/

/-- The way from a description to a program. -/
def programPath (root : Root) (program : Program) : List PathNode :=
  [.root root] ++ [.program program]

section Units

variable {root root' : Root} {program program' : Program} {names : List String}

/-- Units that are reached in the same way from programs of the same base match. -/
theorem matches_of_sameBase (hbase : program.SameBase program') {nodes : List PathNode}
    (hnodes : ∀ node ∈ nodes, PathNode.program? node = none) (content : UnitContent) :
    (ClientUnit.mk (programPath root program ++ nodes) content).Matches
      ⟨programPath root' program' ++ nodes, content⟩ where
  content := rfl
  inlinePda? := by
    cases content
    case pda pda =>
      -- Whether it is introduced depends on the last two nodes, and the programs are neither.
      simp only [ClientUnit.inlinePda?, programPath, List.reverse_append]
      cases nodes.reverse with
      | nil => rfl
      | cons last others =>
        cases others with
        | nil => rfl
        | cons node others => cases node <;> rfl
    all_goals rfl
  programs := by
    refine ⟨program, program', ?_, ?_, hbase⟩
    · exact (liesIn_of_append hnodes).program?_eq
    · exact (liesIn_of_append hnodes).program?_eq

/-- Units made alike of the same things match. -/
theorem forall₂_map_of_sameBase {α : Type} (hbase : program.SameBase program')
    {nodes : α → List PathNode} (hnodes : ∀ a, ∀ node ∈ nodes a, PathNode.program? node = none)
    (content : α → UnitContent) (items : List α) : List.Forall₂ ClientUnit.Matches
      (items.map fun a => ⟨programPath root program ++ nodes a, content a⟩)
      (items.map fun a => ⟨programPath root' program' ++ nodes a, content a⟩) := by
  rw [List.forall₂_map_left_iff, List.forall₂_map_right_iff, List.forall₂_same]
  exact fun a _ => matches_of_sameBase hbase (hnodes a) (content a)

/-- The unit is not a derived address that is introduced under one of the names. -/
def ClientUnit.isApart (names : List String) (part : ClientUnit) : Bool :=
  part.inlinePda?.all fun pda => pda.name ∉ names

/-- The derived addresses that an instruction has on the spot. -/
def Idl.Instruction.inlinePdas (instruction : Instruction) : List Pda :=
  instruction.accounts.filterMap Idl.InstructionAccount.inlinePda?

/-- The unit of an instruction. -/
def instructionUnit (path : List PathNode) (instruction : Instruction) : ClientUnit :=
  ⟨path ++ [.instruction instruction], .instruction instruction⟩

/-- The unit of a derived address that a unit introduces. -/
def ClientUnit.introduced (part : ClientUnit) (pda : Pda) : ClientUnit :=
  ⟨part.path ++ [.pda pda], .pda pda⟩

theorem inlinePda?_introduced (path : List PathNode) (instruction : Instruction) (pda : Pda) :
    ((instructionUnit path instruction).introduced pda).inlinePda? = some pda := by
  simp [instructionUnit, ClientUnit.introduced, ClientUnit.inlinePda?]

theorem introduced_instructionUnit (path : List PathNode) (instruction : Instruction) :
    (instructionUnit path instruction).introduced =
      fun pda => ⟨path ++ [.instruction instruction, .pda pda], .pda pda⟩ := by
  funext pda
  simp [instructionUnit, ClientUnit.introduced]

theorem instructionUnits_cons (path : List PathNode) (known : List String)
    (instruction : Instruction) (instructions : List Instruction) :
    instructionUnits path known (instruction :: instructions) = instructionUnit path instruction ::
      ((newPdas known instruction.inlinePdas).1.map (instructionUnit path instruction).introduced ++
        instructionUnits path (newPdas known instruction.inlinePdas).2 instructions) := rfl

/-- The names met after some instructions. -/
def namesAfter (known : List String) : List Instruction → List String
  | [] => known
  | instruction :: instructions => namesAfter (newPdas known instruction.inlinePdas).2 instructions

theorem instructionUnits_append {path : List PathNode} {back front : List Instruction} :
    ∀ {known : List String}, instructionUnits path known (front ++ back) =
      instructionUnits path known front ++ instructionUnits path (namesAfter known front) back := by
  induction front with
  | nil => exact rfl
  | cons instruction front ih =>
    intro known
    rw [List.cons_append, instructionUnits_cons, instructionUnits_cons, ih, namesAfter,
      List.cons_append, List.append_assoc]

/-- **The units of instructions match**, apart from derived addresses that are introduced under one
of the names in question. -/
theorem forall₂_instructionUnits (hbase : program.SameBase program')
    {instructions : List Instruction} : ∀ {known known' : List String},
    AgreeBut names known known' → List.Forall₂ ClientUnit.Matches
      ((instructionUnits (programPath root program) known instructions).filter (·.isApart names))
      ((instructionUnits (programPath root' program') known' instructions).filter
        (·.isApart names)) := by
  induction instructions with
  | nil => exact fun _ => .nil
  | cons instruction instructions ih =>
    intro known known' h
    -- What is left of the derived addresses is the same, though they may come from other names.
    obtain ⟨hnew, hknown⟩ := @newPdas_agreeBut names instruction.inlinePdas _ _ h
    have hinline : ∀ (path : List PathNode) (pdas : List Pda),
        (pdas.map (instructionUnit path instruction).introduced).filter (·.isApart names) =
          (pdas.filter fun pda => pda.name ∉ names).map
            (instructionUnit path instruction).introduced := by
      intro path pdas
      rw [List.filter_map]
      refine congrArg _ (List.filter_congr fun pda _ => ?_)
      simp [ClientUnit.isApart, inlinePda?_introduced]
    rw [instructionUnits_cons, instructionUnits_cons, List.filter_cons_of_pos rfl,
      List.filter_cons_of_pos rfl, List.filter_append, List.filter_append, hinline, hinline, hnew]
    refine .cons ?_ (List.rel_append ?_ (ih hknown))
    · exact matches_of_sameBase hbase (by simp [PathNode.program?]) _
    · rw [introduced_instructionUnit, introduced_instructionUnit]
      exact forall₂_map_of_sameBase hbase (by simp [PathNode.program?]) UnitContent.pda _

/-- Units that match are derived addresses introduced under one of the names, or not, alike. -/
theorem forall₂_filter_isApart {units units' : List ClientUnit} (names : List String)
    (h : List.Forall₂ ClientUnit.Matches units units') : List.Forall₂ ClientUnit.Matches
      (units.filter (·.isApart names)) (units'.filter (·.isApart names)) := by
  refine List.rel_filter (fun part part' hmatches => ?_) h
  simp only [ClientUnit.isApart, hmatches.inlinePda?]

/-- The units of a program that are neither accounts nor instructions: those in front. -/
def headUnits (root : Root) (program : Program) : List ClientUnit :=
  [⟨programPath root program, .program⟩] ++
    if program.errors.isEmpty then [] else [⟨programPath root program, .errors⟩]

/-- The units of accounts. -/
def accountUnits (path : List PathNode) (accounts : List Account) : List ClientUnit :=
  accounts.map fun account => ⟨path ++ [.account account], .account account⟩

/-- The units of a program that are neither accounts nor instructions: those between. -/
def declaredUnits (root : Root) (program : Program) : List ClientUnit :=
  program.definedTypes.map (fun type =>
    ⟨programPath root program ++ [.definedType type], .definedType type⟩) ++
  program.pdas.map fun pda => ⟨programPath root program ++ [.pda pda], .pda pda⟩

theorem units_eq (root : Root) (program : Program) : program.units [.root root] =
    headUnits root program ++ (accountUnits (programPath root program) program.accounts ++
      (declaredUnits root program ++ instructionUnits (programPath root program)
        (program.pdas.map (·.name)) program.instructions)) := by
  simp [Idl.Program.units, headUnits, accountUnits, declaredUnits, programPath]

theorem forall₂_headUnits (hbase : program.SameBase program') :
    List.Forall₂ ClientUnit.Matches (headUnits root program) (headUnits root' program') := by
  have hown : ∀ content, (ClientUnit.mk (programPath root program) content).Matches
      ⟨programPath root' program', content⟩ := by
    intro content
    have hnone : ∀ node ∈ ([] : List PathNode), PathNode.program? node = none := nofun
    exact matches_of_sameBase hbase hnone content
  rw [headUnits, headUnits, hbase.errors]
  refine .cons (hown _) ?_
  split
  · exact .nil
  · exact .cons (hown _) .nil

theorem forall₂_accountUnits (hbase : program.SameBase program') (accounts : List Account) :
    List.Forall₂ ClientUnit.Matches (accountUnits (programPath root program) accounts)
      (accountUnits (programPath root' program') accounts) :=
  forall₂_map_of_sameBase hbase (by simp [PathNode.program?]) UnitContent.account accounts

theorem forall₂_declaredUnits (hbase : program.SameBase program') :
    List.Forall₂ ClientUnit.Matches (declaredUnits root program)
      (declaredUnits root' program') := by
  rw [declaredUnits, declaredUnits, ← hbase.definedTypes, ← hbase.pdas]
  apply List.rel_append
  · exact forall₂_map_of_sameBase hbase (by simp [PathNode.program?]) UnitContent.definedType _
  · exact forall₂_map_of_sameBase hbase (by simp [PathNode.program?]) UnitContent.pda _

/-- The units of the same instructions match if the same names have been met. -/
theorem forall₂_instructionUnits_same (hbase : program.SameBase program') (known : List String)
    (instructions : List Instruction) : List.Forall₂ ClientUnit.Matches
      (instructionUnits (programPath root program) known instructions)
      (instructionUnits (programPath root' program') known instructions) := by
  have hall : ∀ units : List ClientUnit, units.filter (·.isApart []) = units := by
    intro units
    rw [List.filter_eq_self]
    intro part _
    cases hpda : part.inlinePda? <;> simp [ClientUnit.isApart, hpda]
  have h := @forall₂_instructionUnits root root' _ _ [] hbase instructions known known
    fun _ _ => Iff.rfl
  rwa [hall, hall] at h

/-- A program has matching units in two descriptions. -/
theorem forall₂_units (root root' : Root) (program : Program) :
    List.Forall₂ ClientUnit.Matches (program.units [.root root]) (program.units [.root root']) := by
  have hbase := Program.SameBase.refl program
  rw [units_eq, units_eq]
  exact List.rel_append (forall₂_headUnits hbase) (List.rel_append (forall₂_accountUnits hbase _)
    (List.rel_append (forall₂_declaredUnits hbase) (forall₂_instructionUnits_same hbase _ _)))

theorem forall₂_flatMap_units (root root' : Root) (programs : List Program) :
    List.Forall₂ ClientUnit.Matches (programs.flatMap fun program => program.units [.root root])
      (programs.flatMap fun program => program.units [.root root']) := by
  induction programs with
  | nil => exact .nil
  | cons program programs ih =>
    rw [List.flatMap_cons, List.flatMap_cons]
    exact List.rel_append (forall₂_units root root' program) ih

end Units

/-! ## Cutting out a unit -/

/-- Some units, cut at one of them: those in front of it, the unit itself, the derived addresses
that it introduces, and those behind. -/
structure Cut (units : List ClientUnit) (content : UnitContent) where
  /-- The units in front. -/
  front : List ClientUnit
  /-- The unit. -/
  own : ClientUnit
  /-- The derived addresses that it introduces. -/
  inline : List Pda
  /-- The units behind. -/
  back : List ClientUnit
  /-- These are all units. -/
  units_eq : units = front ++ own :: (inline.map own.introduced ++ back)
  /-- The unit has the given content. -/
  content_own : own.content = content

namespace Cut

variable {units units' : List ClientUnit} {content content' : UnitContent}

/-- The names of the derived addresses that the unit introduces. -/
def names (cut : Cut units content) : List String := cut.inline.map (·.name)

/-- The units in front match, and so do those behind, apart from derived addresses of names that are
introduced at the cut. -/
structure Agrees (cut : Cut units content) (cut' : Cut units' content') : Prop where
  /-- The units in front match. -/
  front : List.Forall₂ ClientUnit.Matches cut.front cut'.front
  /-- The units behind match. -/
  back : List.Forall₂ ClientUnit.Matches
    (cut.back.filter (·.isApart (cut.names ++ cut'.names)))
    (cut'.back.filter (·.isApart (cut.names ++ cut'.names)))

/-- The same cut among more units. -/
def extend (cut : Cut units content) (front back : List ClientUnit) :
    Cut (front ++ (units ++ back)) content where
  front := front ++ cut.front
  own := cut.own
  inline := cut.inline
  back := cut.back ++ back
  units_eq := by simp [cut.units_eq]
  content_own := cut.content_own

theorem Agrees.extend {cut : Cut units content} {cut' : Cut units' content'} (h : cut.Agrees cut')
    {front front' back back' : List ClientUnit}
    (hfront : List.Forall₂ ClientUnit.Matches front front')
    (hback : List.Forall₂ ClientUnit.Matches back back') :
    (cut.extend front back).Agrees (cut'.extend front' back') where
  front := List.rel_append hfront h.front
  back := by
    have hnames : (cut.extend front back).names = cut.names := rfl
    have hnames' : (cut'.extend front' back').names = cut'.names := rfl
    rw [hnames, hnames', Cut.extend, Cut.extend, List.filter_append, List.filter_append]
    exact List.rel_append h.back (forall₂_filter_isApart _ hback)

end Cut

section Programs

variable {root root' : Root} {program program' : Program}

/-- The units of a program, cut at an account. -/
def accountCut (root : Root) {program : Program} {front back : List Account} {account : Account}
    (h : program.accounts = front ++ account :: back) :
    Cut (program.units [.root root]) (.account account) where
  front := headUnits root program ++ accountUnits (programPath root program) front
  own := ⟨programPath root program ++ [.account account], .account account⟩
  inline := []
  back := accountUnits (programPath root program) back ++ (declaredUnits root program ++
    instructionUnits (programPath root program) (program.pdas.map (·.name)) program.instructions)
  units_eq := by
    rw [units_eq, h]
    simp [accountUnits]
  content_own := rfl

theorem agrees_accountCut (hbase : program.SameBase program') {front back : List Account}
    {account account' : Account} (h : program.accounts = front ++ account :: back)
    (h' : program'.accounts = front ++ account' :: back)
    (hinstructions : program.instructions = program'.instructions) :
    (accountCut root h).Agrees (accountCut root' h') where
  front := List.rel_append (forall₂_headUnits hbase) (forall₂_accountUnits hbase front)
  back := by
    apply forall₂_filter_isApart
    apply List.rel_append (forall₂_accountUnits hbase back)
    apply List.rel_append (forall₂_declaredUnits hbase)
    rw [← hinstructions, ← hbase.pdas]
    exact forall₂_instructionUnits_same hbase _ program.instructions

/-- The units of a program, cut at an instruction. -/
def instructionCut (root : Root) {program : Program} {front back : List Instruction}
    {instruction : Instruction} (h : program.instructions = front ++ instruction :: back) :
    Cut (program.units [.root root]) (.instruction instruction) :=
  let path := programPath root program
  let known := namesAfter (program.pdas.map (·.name)) front
  { front := headUnits root program ++ (accountUnits path program.accounts ++
      (declaredUnits root program ++ instructionUnits path (program.pdas.map (·.name)) front))
    own := instructionUnit path instruction
    inline := (newPdas known instruction.inlinePdas).1
    back := instructionUnits path (newPdas known instruction.inlinePdas).2 back
    units_eq := by
      rw [units_eq, h, instructionUnits_append, instructionUnits_cons]
      simp [path, known]
    content_own := rfl }

theorem agrees_instructionCut (hbase : program.SameBase program') {front back : List Instruction}
    {instruction instruction' : Instruction}
    (h : program.instructions = front ++ instruction :: back)
    (h' : program'.instructions = front ++ instruction' :: back)
    (haccounts : program.accounts = program'.accounts) :
    (instructionCut root h).Agrees (instructionCut root' h') where
  front := by
    -- Up to the instruction the same names have been met.
    apply List.rel_append (forall₂_headUnits hbase)
    rw [← haccounts, ← hbase.pdas]
    apply List.rel_append (forall₂_accountUnits hbase program.accounts)
    apply List.rel_append (forall₂_declaredUnits hbase)
    exact forall₂_instructionUnits_same hbase _ front
  back := by
    -- Behind it they differ in those that one of the two instructions introduces.
    apply forall₂_instructionUnits hbase
    have hpdas' : ∀ pda ∈ (newPdas (namesAfter (program.pdas.map (·.name)) front)
        instruction'.inlinePdas).1, pda.name ∈ (instructionCut root' h').names := by
      rw [hbase.pdas]
      exact fun pda hpda => List.mem_map_of_mem hpda
    rw [← hbase.pdas]
    apply agreeBut_newPdas
    · exact fun pda hpda => List.mem_append_left _ (List.mem_map_of_mem hpda)
    · exact fun pda hpda => List.mem_append_right _ (hpdas' pda hpda)

end Programs

/-- **The units are the same** but for the cut one and for what it introduces. -/
theorem exists_cuts_of_varies {root root' : Root} {content content' : UnitContent}
    (h : root.Varies root' content content') :
    ∃ (cut : Cut root.units content) (cut' : Cut root'.units content'), cut.Agrees cut' := by
  obtain ⟨front, program, program', back, hprograms, hprograms', hvaries⟩ := h.exists_programs
  have hcuts : ∃ (cut : Cut (program.units [.root root]) content)
      (cut' : Cut (program'.units [.root root']) content'), cut.Agrees cut' := by
    have hbase := hvaries.sameBase
    cases hvaries with
    | account => exact ⟨_, _, agrees_accountCut hbase rfl rfl rfl⟩
    | instruction => exact ⟨_, _, agrees_instructionCut hbase rfl rfl rfl⟩
  obtain ⟨cut, cut', hagrees⟩ := hcuts
  rw [Idl.Root.units, Idl.Root.units, hprograms, hprograms', List.flatMap_append,
    List.flatMap_append, List.flatMap_cons, List.flatMap_cons]
  exact ⟨_, _, hagrees.extend (forall₂_flatMap_units root root' front)
    (forall₂_flatMap_units root root' back)⟩

end DartClient
