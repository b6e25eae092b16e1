import DartClient.Proofs.Client.Units

/-!
# What units depend on

A unit sees little of the description around it: what links lead to, and of its own program the
name, the address, the version and the errors. The accounts and instructions of programs are not
among it, other than those that the unit itself is made of. So a unit is generated alike in two
descriptions that differ in accounts and instructions.

## Main definitions

* `Resolver.Agrees`: two resolvers find the same behind every link.
* `Idl.Program.SameBase`: two programs differ in accounts and instructions at most.
* `ClientUnit.Matches`: two units that are generated alike.

## Main results

* `Dictionary.agrees_of_sameBase`: what links lead to does not depend on accounts and instructions.
* `ClientUnit.Matches.generate_eq`: units that match are generated alike.
-/

namespace DartClient

open Idl (Root Program Account Instruction InstructionAccount DefinedType Pda PdaSeed TypeNode
  SeedValue InputValue PdaReference PdaValue)

/-! ## What resolvers find -/

/-- The resolvers find the same behind every link. -/
structure Resolver.Agrees (resolver resolver' : Resolver) : Prop where
  /-- Links to types lead to the same. -/
  target : ∀ name program, resolver.target name program = resolver'.target name program
  /-- Links to derived addresses lead to the same. -/
  pda : ∀ name, resolver.dictionary.pda? resolver.program name =
    resolver'.dictionary.pda? resolver'.program name

namespace Resolver.Agrees

variable {resolver resolver' : Resolver}

/-- Types are resolved alike. -/
theorem resolve_eq (h : resolver.Agrees resolver') : resolver.resolve = resolver'.resolve := by
  -- Links are the only place where the resolution of a type looks at the dictionary.
  funext node ctx
  refine congrFun (resolveWithin_eq_of_sameTarget fun name program _ => ?_) ctx
  rw [h.target]
  exact SameTarget.refl _

theorem resolveArguments_eq (h : resolver.Agrees resolver') :
    resolver.resolveArguments = resolver'.resolveArguments := by
  funext arguments ctx
  rw [resolveArguments, resolveArguments, h.resolve_eq]

theorem seedEncoding_eq (h : resolver.Agrees resolver') :
    resolver.seedEncoding = resolver'.seedEncoding := by
  funext type seed
  rw [seedEncoding, seedEncoding, h.resolve_eq]

theorem resolveSeed_eq (h : resolver.Agrees resolver') :
    resolver.resolveSeed = resolver'.resolveSeed := by
  have hbound : resolver.boundSeed = resolver'.boundSeed := by
    funext seed type value
    unfold boundSeed
    rw [h.seedEncoding_eq]
  funext place bindings seed
  unfold resolveSeed
  rw [h.seedEncoding_eq, hbound]

/-- Derivations are resolved alike. -/
theorem resolveSeeds_eq (h : resolver.Agrees resolver') :
    resolver.resolveSeeds = resolver'.resolveSeeds := by
  funext pda bindings
  rw [resolveSeeds, resolveSeeds, h.resolveSeed_eq]

theorem accountDefault_eq (h : resolver.Agrees resolver') :
    resolver.accountDefault = resolver'.accountDefault := by
  have hreferred : resolver.referredPda = resolver'.referredPda := by
    funext account reference
    unfold referredPda
    simp only [h.pda]
  have hderived : resolver.derivedDefault = resolver'.derivedDefault := by
    funext accounts index account value
    unfold derivedDefault
    rw [hreferred, h.resolveSeeds_eq]
  funext settings accounts index account
  unfold accountDefault
  rw [hderived]

/-- The accounts of an instruction have the same defaults. -/
theorem builderAccounts_eq (h : resolver.Agrees resolver') :
    resolver.builderAccounts = resolver'.builderAccounts := by
  have hfrom : ∀ settings accounts rest index,
      resolver.builderAccountsFrom settings accounts index rest =
        resolver'.builderAccountsFrom settings accounts index rest := by
    intro settings accounts rest
    induction rest with
    | nil => exact fun _ => rfl
    | cons account rest ih =>
      intro index
      rw [builderAccountsFrom, builderAccountsFrom, h.accountDefault_eq, ih]
  funext settings instruction
  exact hfrom settings instruction.accounts instruction.accounts 0

theorem seedManifests_eq (h : resolver.Agrees resolver') (seeds : List PdaSeed) :
    resolver.seedManifests seeds = resolver'.seedManifests seeds := by
  induction seeds with
  | nil => rfl
  | cons seed seeds ih => cases seed <;> simp only [seedManifests, ih, h.resolve_eq]

theorem accountPage_eq (h : resolver.Agrees resolver') :
    resolver.accountPage = resolver'.accountPage := by
  funext account
  rw [accountPage, accountPage, accountClass, accountClass, h.resolve_eq]

theorem typePages_eq (h : resolver.Agrees resolver') :
    resolver.typePages = resolver'.typePages := by
  funext type
  rw [typePages, typePages, h.resolve_eq]

end Resolver.Agrees

/-! ## Programs -/

/-- The programs differ in accounts, instructions and documentation at most. -/
structure Idl.Program.SameBase (program program' : Program) : Prop where
  /-- The name is the same. -/
  name : program.name = program'.name
  /-- The address is the same. -/
  publicKey : program.publicKey = program'.publicKey
  /-- The version is the same. -/
  version : program.version = program'.version
  /-- The defined types are the same. -/
  definedTypes : program.definedTypes = program'.definedTypes
  /-- The derived addresses are the same. -/
  pdas : program.pdas = program'.pdas
  /-- The errors are the same. -/
  errors : program.errors = program'.errors

theorem Idl.Program.SameBase.refl (program : Program) : program.SameBase program :=
  ⟨rfl, rfl, rfl, rfl, rfl, rfl⟩

namespace Dictionary

variable {programs programs' : List Program}

/-- What links find of a program. -/
def tables? (dictionary : Dictionary) (program : String) :
    Option (Std.ExtTreeMap String DefinedType × Std.ExtTreeMap String Pda) :=
  (dictionary.program? program).map fun entry => (entry.definedTypes, entry.pdas)

/-- **What links lead to** does not depend on accounts and instructions. -/
theorem tables?_eq_of_sameBase (h : List.Forall₂ Program.SameBase programs programs')
    (name : String) : (ofPrograms programs).tables? name = (ofPrograms programs').tables? name := by
  rw [tables?, tables?, program?_ofPrograms, program?_ofPrograms]
  -- Of several programs of one name the first one stands, and both lists have it at one place.
  induction h with
  | nil => rfl
  | @cons program program' _ _ hhead _ ih =>
    by_cases hname : program.name = name
    · rw [List.find?_cons_of_pos (by simpa using hname),
        List.find?_cons_of_pos (by simpa [← hhead.name] using hname)]
      simp only [Option.map_some, ProgramEntry.ofProgram, hhead.definedTypes, hhead.pdas]
    · rw [List.find?_cons_of_neg (by simpa using hname),
        List.find?_cons_of_neg (by simpa [← hhead.name] using hname)]
      exact ih

theorem definedType?_eq (dictionary : Dictionary) (program name : String)
    (linkedProgram : Option String) : dictionary.definedType? program name linkedProgram =
      (dictionary.tables? (linkedProgram.getD program)).bind fun tables => tables.1[name]? := by
  rw [definedType?, tables?, Option.bind_map]
  rfl

theorem pda?_eq (dictionary : Dictionary) (program name : String) :
    dictionary.pda? program name =
      (dictionary.tables? program).bind fun tables => tables.2[name]? := by
  rw [pda?, tables?, Option.bind_map]
  rfl

theorem agrees_of_sameBase (h : List.Forall₂ Program.SameBase programs programs')
    (program : String) :
    Resolver.Agrees ⟨ofPrograms programs, program⟩ ⟨ofPrograms programs', program⟩ where
  target := by
    intro name linkedProgram
    rw [Resolver.target, Resolver.target, definedType?_eq, definedType?_eq,
      tables?_eq_of_sameBase h]
  pda := by
    intro name
    rw [pda?_eq, pda?_eq, tables?_eq_of_sameBase h]

end Dictionary

/-! ## Units -/

/-- A derived address that the account of an instruction introduces on the spot, if the unit is
one. -/
def ClientUnit.inlinePda? (part : ClientUnit) : Option Pda :=
  match part.content, part.path.reverse with
  | .pda pda, _ :: .instruction _ :: _ => some pda
  | _, _ => none

/-- The units have the same content, and their programs the same base. -/
structure ClientUnit.Matches (part part' : ClientUnit) : Prop where
  /-- They generate the same. -/
  content : part.content = part'.content
  /-- Both are introduced on the spot, or both are not. -/
  inlinePda? : part.inlinePda? = part'.inlinePda?
  /-- Their programs have the same base. -/
  programs : ∃ program program', part.program? = some program ∧ part'.program? = some program' ∧
    program.SameBase program'

namespace Idl.Program.SameBase

variable {program program' : Program}

theorem programPage_eq (h : program.SameBase program') :
    programPage program = programPage program' := by
  simp only [programPage, programLines, shownVersion, h.name, h.publicKey, h.version]

theorem errorsPage?_eq (h : program.SameBase program') :
    errorsPage? program = errorsPage? program' := by
  simp only [errorsPage?, errorsLines, h.name, h.errors]

theorem derivingProgram_eq (h : program.SameBase program') :
    derivingProgram program = derivingProgram program' := by
  funext pda
  unfold derivingProgram
  rw [h.name]

theorem instructionPageOf_eq (h : program.SameBase program') (instruction : Instruction)
    (accounts : List BuilderAccount) :
    instructionPageOf instruction accounts program =
      instructionPageOf instruction accounts program' := by
  funext discriminator cls
  simp only [instructionPageOf, builderImports, h.name]

end Idl.Program.SameBase

section Pages

variable {resolver resolver' : Resolver} {program program' : Program}

theorem Resolver.Agrees.pdaPage_eq (h : resolver.Agrees resolver')
    (hbase : program.SameBase program') (pda : Pda) :
    resolver.pdaPage program pda = resolver'.pdaPage program' pda := by
  simp only [Resolver.pdaPage, Resolver.derivationHelper, h.resolveSeeds_eq, h.seedManifests_eq,
    hbase.derivingProgram_eq]

theorem Resolver.Agrees.instructionPage_eq (h : resolver.Agrees resolver')
    (hbase : program.SameBase program') (instruction : Instruction)
    (accounts : List BuilderAccount) :
    resolver.instructionPage instruction accounts program =
      resolver'.instructionPage instruction accounts program' := by
  simp only [Resolver.instructionPage, Resolver.argumentClass?, h.resolveArguments_eq,
    hbase.instructionPageOf_eq]

end Pages

namespace ClientUnit.Matches

variable {part part' : ClientUnit} {root root' : Root} {settings : Settings}

theorem name_eq (h : part.Matches part') : part.name = part'.name := by
  obtain ⟨program, program', hprogram, hprogram', hbase⟩ := h.programs
  simp only [ClientUnit.name, hprogram, hprogram', Option.map_some, hbase.name, h.content]

/-- **Units that match are generated alike.** -/
theorem generate_eq (h : part.Matches part')
    (hprograms : List.Forall₂ Program.SameBase root.programs root'.programs) :
    part.generate (.ofRoot root) settings = part'.generate (.ofRoot root') settings := by
  obtain ⟨program, program', hprogram, hprogram', hbase⟩ := h.programs
  -- Both resolvers speak for the same program, as its name is the same.
  have hagrees : Resolver.Agrees ⟨.ofRoot root, program.name⟩ ⟨.ofRoot root', program'.name⟩ := by
    rw [← hbase.name]
    exact Dictionary.agrees_of_sameBase hprograms program.name
  simp only [ClientUnit.generate, hprogram, hprogram', h.content]
  cases part'.content with
  | account account => exact congrFun hagrees.accountPage_eq account
  | instruction instruction =>
    simp only [hagrees.builderAccounts_eq, hagrees.instructionPage_eq hbase]
  | definedType type => exact congrFun hagrees.typePages_eq type
  | pda pda => exact hagrees.pdaPage_eq hbase pda
  | program => simp only [hbase.programPage_eq]
  | errors => simp only [hbase.errorsPage?_eq]

end ClientUnit.Matches

end DartClient
