import DartClient.Proofs.Idl.Types

/-!
# Descriptions are read back

The document of every node of a description is read as that node: types, values, seeds, derived
addresses, input values, discriminators, accounts, instructions, programs and whole descriptions.
Unknown kinds are written under names that no kind has and come back as unknown, absent members
come back absent, and present ones are written even where they have the value that a missing member
would have. Only the number of an error is bounded: the reader admits 32 bits.

## Main definitions

* `Survives`: a node comes back from its document, and so does the document.

## Main results

* `InputValue.reads_within`: input values are read back within every bound that they nest within.
* `nodes_survive`: all nodes survive, programs and descriptions exactly if the numbers of their
  errors have 32 bits.
-/

namespace DartClient.Idl

open Json

/-! ## Seeds and derived addresses -/

theorem PdaSeed.isReadable_toJson (seed : PdaSeed) : seed.toJson.IsReadable := by
  match seed with
  | .constant type value =>
    simp [PdaSeed.toJson, type.isReadable_toJson, value.isReadable_toJson]
  | .variable name type docs => simp [PdaSeed.toJson, type.isReadable_toJson]

theorem PdaSeed.isTagged_toJson (seed : PdaSeed) : seed.toJson.IsTagged := by
  cases seed <;>
    · rw [PdaSeed.toJson]
      exact isTagged_taggedObject (by simp)

@[simp] theorem PdaSeed.ofPart?_toJson (seed : PdaSeed) :
    PdaSeed.ofPart? seed.toJson = some seed := by
  cases seed <;>
    · rw [PdaSeed.toJson, PdaSeed.ofPart?, tagged?_taggedObject (by simp)]
      simp [record?_object]

@[simp] theorem PdaSeed.ofJson?_toJson (seed : PdaSeed) :
    PdaSeed.ofJson? seed.toJson = some seed := by
  rw [PdaSeed.ofJson?, seed.isTagged_toJson.standalone?_eq seed.isReadable_toJson,
    Option.bind_some, PdaSeed.ofPart?_toJson]

/-- A derived address is read back by every reader of its seeds that reads these back. -/
theorem pda?_members {seed : Json → Option PdaSeed}
    (h : ∀ pdaSeed : PdaSeed, seed pdaSeed.toJson = some pdaSeed) (pda : Pda) :
    pda? seed (.object pda.members) = some pda := by
  obtain ⟨name, docs, seeds, programId⟩ := pda
  have hseeds : toList? seed (.array (seeds.map PdaSeed.toJson)) = some seeds :=
    toList?_map fun pdaSeed _ => h pdaSeed
  cases programId <;> simp [pda?, Pda.members, optionalMember, record?_object, hseeds]

theorem Pda.isReadable_of_mem_members (pda : Pda) :
    ∀ member ∈ pda.members, member.2.IsReadable := by
  obtain ⟨name, docs, seeds, programId⟩ := pda
  cases programId <;> simp [Pda.members, optionalMember, PdaSeed.isReadable_toJson]

theorem Pda.kind_not_mem_members (pda : Pda) : "kind" ∉ pda.members.map Prod.fst := by
  obtain ⟨name, docs, seeds, programId⟩ := pda
  cases programId <;> simp [Pda.members, optionalMember]

/-- **A derived address is read back.** -/
@[simp] theorem Pda.ofJson?_toJson (pda : Pda) : Pda.ofJson? pda.toJson = some pda :=
  pda?_members PdaSeed.ofJson?_toJson pda

@[simp] theorem PdaReference.ofPart?_toJson (reference : PdaReference) :
    PdaReference.ofPart? reference.toJson = some reference := by
  cases reference with
  | link name =>
    rw [PdaReference.toJson, PdaReference.ofPart?, tagged?_taggedObject (by simp)]
    simp
  | inline pda =>
    rw [PdaReference.toJson, PdaReference.ofPart?,
      tagged?_taggedObject pda.kind_not_mem_members]
    simp [pda?_members PdaSeed.ofPart?_toJson]

theorem PdaReference.isReadable_toJson (reference : PdaReference) :
    reference.toJson.IsReadable := by
  cases reference with
  | link name => simp [PdaReference.toJson]
  | inline pda => exact isReadable_taggedObject.mpr pda.isReadable_of_mem_members

/-! ## Input values -/

theorem seedValuesToJson_eq_map (seeds : List SeedValue) : seedValuesToJson seeds =
    seeds.map fun seed => .object [("name", .string seed.name), ("value", seed.value.toJson)] := by
  induction seeds with
  | nil => rfl
  | cons seed seeds ih =>
    obtain ⟨name, value⟩ := seed
    rw [seedValuesToJson, ih, List.map_cons]

mutual

theorem InputValue.isReadable_toJson : ∀ value : InputValue, value.toJson.IsReadable
  | .account _ | .argument _ | .publicKey _ | .programId | .identity | .payer | .number _
  | .string _ | .boolean _ | .unsupported => by simp [InputValue.toJson]
  | .bytes _ => by simp [InputValue.toJson, BytesValue.members]
  | .pda ⟨reference, seeds⟩ => by
    simpa [InputValue.toJson, reference.isReadable_toJson] using isReadable_seedValuesToJson seeds
  | .conditional condition ifTrue ifFalse => by
    rw [InputValue.toJson, isReadable_taggedObject]
    refine List.forall_mem_cons.mpr ⟨condition.isReadable_toJson, List.forall_mem_append.mpr ?_⟩
    exact ⟨isReadable_of_mem_optionalMember (isReadable_branchToJson ifTrue),
      isReadable_of_mem_optionalMember (isReadable_branchToJson ifFalse)⟩

theorem isReadable_seedValuesToJson : ∀ seeds : List SeedValue,
    ∀ json ∈ seedValuesToJson seeds, json.IsReadable
  | [] => fun _ h => by cases h
  | ⟨_, value⟩ :: seeds =>
    List.forall_mem_cons.mpr
      ⟨by simp [value.isReadable_toJson], isReadable_seedValuesToJson seeds⟩

theorem isReadable_branchToJson : ∀ branch : Option InputValue,
    ∀ json, branchToJson branch = some json → json.IsReadable
  | none => fun _ h => by cases h
  | some value => fun _ h => Option.some.inj h ▸ value.isReadable_toJson

end

theorem InputValue.isTagged_toJson (value : InputValue) : value.toJson.IsTagged := by
  cases value with
  | bytes value =>
    rw [InputValue.toJson]
    exact isTagged_taggedObject (by simp [BytesValue.members])
  | conditional condition ifTrue ifFalse =>
    rw [InputValue.toJson]
    refine isTagged_taggedObject ?_
    cases ifTrue <;> cases ifFalse <;> simp [branchToJson, optionalMember]
  | pda value =>
    obtain ⟨reference, seeds⟩ := value
    rw [InputValue.toJson]
    exact isTagged_taggedObject (by simp)
  | _ =>
    rw [InputValue.toJson]
    exact isTagged_taggedObject (by simp)

section Bound

variable {bound : Nat}

/-- Input values that nest within a bound are read back within it. -/
def ReadsInputs (bound : Nat) : Prop :=
  ∀ value : InputValue, value.toJson.NestsWithin bound →
    InputValue.read bound value.toJson = some value

theorem seedValues?_of_nestsWithin (hinputs : ReadsInputs bound) {seeds : List SeedValue}
    (h : (Json.array (seedValuesToJson seeds)).NestsWithin bound) :
    toList? (seedValue? (InputValue.read bound)) (.array (seedValuesToJson seeds)) =
      some seeds := by
  rw [seedValuesToJson_eq_map] at h ⊢
  refine toList?_map fun seed hseed => ?_
  have hseed := h.item _ (List.mem_map_of_mem hseed)
  obtain ⟨name, value⟩ := seed
  have hvalue := hinputs value (hseed.member ("value", value.toJson) (by simp))
  simp [seedValue?, record?_object, hvalue]

/-- One more level of reading input values. -/
theorem readsInputs_succ (hinputs : ReadsInputs bound) : ReadsInputs (bound + 1) := by
  intro value h
  cases value with
  | account name | argument name =>
    rw [InputValue.toJson, InputValue.read, tagged?_taggedObject (by simp)]
    simp
  | pda value =>
    obtain ⟨reference, seeds⟩ := value
    rw [InputValue.toJson] at h ⊢
    obtain ⟨-, hrest⟩ := List.forall_mem_cons.mp h.of_taggedObject
    obtain ⟨hseeds, -⟩ := List.forall_mem_cons.mp hrest
    rw [InputValue.read, tagged?_taggedObject (by simp)]
    simp [record?_object, seedValues?_of_nestsWithin hinputs hseeds]
  | publicKey key | string value =>
    rw [InputValue.toJson, InputValue.read, tagged?_taggedObject (by simp)]
    simp [record?_object]
  | programId | identity | payer | unsupported =>
    rw [InputValue.toJson, InputValue.read, tagged?_taggedObject (by simp)]
    rfl
  | conditional condition ifTrue ifFalse =>
    rw [InputValue.toJson] at h ⊢
    obtain ⟨hcondition, hrest⟩ := List.forall_mem_cons.mp h.of_taggedObject
    obtain ⟨htrue, hfalse⟩ := List.forall_mem_append.mp hrest
    have hcondition := hinputs condition hcondition
    have hbranch : ∀ {name branch}, (∀ member ∈ optionalMember name (branchToJson branch),
        member.2.NestsWithin bound) → ∀ value, branch = some value →
          InputValue.read bound value.toJson = some value := by
      rintro name branch h value rfl
      exact hinputs value (h _ List.mem_cons_self)
    rw [InputValue.read, tagged?_taggedObject (by
      cases ifTrue <;> cases ifFalse <;> simp [branchToJson, optionalMember])]
    -- An absent branch has no member, a present one is an object and never the empty value.
    cases ifTrue <;> cases ifFalse <;>
      simp [record?_object, branchToJson, optionalMember, hcondition, hbranch htrue,
        hbranch hfalse, InputValue.isTagged_toJson _ |>.ne_null]
  | number value =>
    rw [InputValue.toJson, InputValue.read, tagged?_taggedObject (by simp)]
    simp [record?_object, toNumber?]
  | boolean value =>
    rw [InputValue.toJson, InputValue.read, tagged?_taggedObject (by simp)]
    simp [record?_object, toBool?]
  | bytes value =>
    rw [InputValue.toJson, InputValue.read, tagged?_taggedObject (by simp [BytesValue.members])]
    simp

/-- **Input values are read back within every bound that they nest within.** -/
theorem InputValue.reads_within (bound : Nat) : ReadsInputs bound := by
  induction bound with
  | zero =>
    exact fun value h => absurd (value.isTagged_toJson.pos_of_nestsWithin h) (Nat.lt_irrefl 0)
  | succ bound ih => exact readsInputs_succ ih

end Bound

/-- **An input value is read back.** -/
@[simp] theorem InputValue.ofJson?_toJson (value : InputValue) :
    InputValue.ofJson? value.toJson = some value := by
  have hstandalone := value.isTagged_toJson.standalone?_eq value.isReadable_toJson
  obtain ⟨bound, depth, -, hdepth⟩ := value.isReadable_toJson
  rw [InputValue.ofJson?, hstandalone]
  simp only [Option.bind_eq_bind, Option.bind_some, hdepth]
  exact InputValue.reads_within depth value ⟨depth, Nat.le_refl depth, hdepth⟩

/-! ## Accounts and instructions -/

/-- **A discriminator is read back.** -/
@[simp] theorem Discriminator.ofJson?_toJson (discriminator : Discriminator) :
    Discriminator.ofJson? discriminator.toJson = some discriminator := by
  have hstandalone : discriminator.toJson.standalone? = some discriminator.toJson := by
    cases discriminator <;>
      · rw [Discriminator.toJson]
        refine (isTagged_taggedObject (by simp)).standalone?_eq (isReadable_taggedObject.mpr ?_)
        simp [ValueNode.isReadable_toJson]
  rw [Discriminator.ofJson?, hstandalone]
  cases discriminator <;> simp [Discriminator.toJson, tagged?_taggedObject, record?_object]

@[simp] theorem toList?_discriminators (discriminators : List Discriminator) :
    toList? Discriminator.ofJson? (.array (discriminators.map Discriminator.toJson)) =
      some discriminators := toList?_map fun discriminator _ => discriminator.ofJson?_toJson

theorem natToJson_ne_null (n : Nat) : natToJson n ≠ .null := Json.noConfusion

/-- **An account is read back.** -/
@[simp] theorem Account.ofJson?_toJson (account : Account) :
    Account.ofJson? account.toJson = some account := by
  obtain ⟨name, size, docs, data, pda, discriminators⟩ := account
  cases size <;> cases pda <;>
    simp [Account.ofJson?, Account.toJson, optionalMember, record?_object, natToJson_ne_null]

@[simp] theorem Signer.ofJson?_toJson (signer : Signer) :
    Signer.ofJson? signer.toJson = some signer := by
  cases signer <;> simp [Signer.ofJson?, Signer.toJson, constantName?]

@[simp] theorem InstructionAccount.ofJson?_toJson (account : InstructionAccount) :
    InstructionAccount.ofJson? account.toJson = some account := by
  obtain ⟨name, isWritable, isSigner, isOptional, docs, defaultValue⟩ := account
  cases defaultValue <;>
    simp [InstructionAccount.ofJson?, InstructionAccount.toJson, optionalMember, record?_object,
      toBool?, (InputValue.isTagged_toJson _).ne_null]

@[simp] theorem Argument.ofJson?_toJson (argument : Argument) :
    Argument.ofJson? argument.toJson = some argument := by
  obtain ⟨name, type, docs, defaultValue⟩ := argument
  cases defaultValue <;>
    simp [Argument.ofJson?, Argument.toJson, optionalMember, record?_object,
      (ValueNode.isTagged_toJson _).ne_null]

/-- **An instruction is read back.** -/
@[simp] theorem Instruction.ofJson?_toJson (instruction : Instruction) :
    Instruction.ofJson? instruction.toJson = some instruction := by
  obtain ⟨name, docs, accounts, arguments, discriminators⟩ := instruction
  have haccounts : toList? InstructionAccount.ofJson?
      (.array (accounts.map InstructionAccount.toJson)) = some accounts :=
    toList?_map fun account _ => account.ofJson?_toJson
  have harguments : toList? Argument.ofJson? (.array (arguments.map Argument.toJson)) =
      some arguments := toList?_map fun argument _ => argument.ofJson?_toJson
  simp [Instruction.ofJson?, Instruction.toJson, record?_object, haccounts, harguments]

/-! ## Programs and descriptions -/

@[simp] theorem DefinedType.ofJson?_toJson (type : DefinedType) :
    DefinedType.ofJson? type.toJson = some type := by
  simp [DefinedType.ofJson?, DefinedType.toJson, record?_object]

/-- The number of an error has 32 bits. -/
def ErrorCode.HasNumber (error : ErrorCode) : Prop := error.code < Nat.pow 2 32

theorem errorNumber?_of_lt {n : Nat} (h : n < Nat.pow 2 32) :
    errorNumber? (natToJson n) = some n := by
  rw [errorNumber?, toNat?_natToJson, Option.filter_some, if_pos (decide_eq_true h)]

theorem errorNumber?_of_le {n : Nat} (h : ¬ n < Nat.pow 2 32) :
    errorNumber? (natToJson n) = none := by
  rw [errorNumber?, toNat?_natToJson, Option.filter_some, if_neg (by simpa using h)]

/-- An error is read back exactly if its number has 32 bits. -/
theorem ErrorCode.ofJson?_toJson_iff (error : ErrorCode) :
    ErrorCode.ofJson? error.toJson = some error ↔ error.HasNumber := by
  obtain ⟨name, code, message, docs⟩ := error
  constructor
  · refine fun h => Classical.byContradiction fun hcode => ?_
    simp [ErrorCode.ofJson?, ErrorCode.toJson, record?_object, errorNumber?_of_le hcode] at h
  · intro hcode
    simp [ErrorCode.ofJson?, ErrorCode.toJson, record?_object, errorNumber?_of_lt hcode]

/-- The numbers of all errors of a program have 32 bits. -/
def Program.HasErrorNumbers (program : Program) : Prop :=
  ∀ error ∈ program.errors, error.HasNumber

/-- **A program is read back exactly if the numbers of its errors have 32 bits.** -/
theorem Program.ofJson?_toJson_iff (program : Program) :
    Program.ofJson? program.toJson = some program ↔ program.HasErrorNumbers := by
  obtain ⟨name, publicKey, version, origin, docs, accounts, instructions, definedTypes, pdas,
    errors⟩ := program
  have haccounts : toList? Account.ofJson? (.array (accounts.map Account.toJson)) =
      some accounts := toList?_map fun account _ => account.ofJson?_toJson
  have hinstructions : toList? Instruction.ofJson?
      (.array (instructions.map Instruction.toJson)) = some instructions :=
    toList?_map fun instruction _ => instruction.ofJson?_toJson
  have htypes : toList? DefinedType.ofJson? (.array (definedTypes.map DefinedType.toJson)) =
      some definedTypes := toList?_map fun type _ => type.ofJson?_toJson
  have hpdas : toList? Pda.ofJson? (.array (pdas.map Pda.toJson)) = some pdas :=
    toList?_map fun pda _ => pda.ofJson?_toJson
  -- All members but the errors are read back, so the program is exactly if these are.
  have herrors : Program.ofJson? (Program.toJson ⟨name, publicKey, version, origin, docs,
      accounts, instructions, definedTypes, pdas, errors⟩) =
      (toList? ErrorCode.ofJson? (.array (errors.map ErrorCode.toJson))).map fun errors =>
        ⟨name, publicKey, version, origin, docs, accounts, instructions, definedTypes, pdas,
          errors⟩ := by
    cases origin <;>
      simp [Program.ofJson?, Program.toJson, optionalMember, record?_object, haccounts,
        hinstructions, htypes, hpdas, Option.map_eq_bind, Function.comp_def]
  rw [herrors, Option.map_eq_some_iff]
  constructor
  · rintro ⟨errors', hread, heq⟩
    obtain rfl : errors' = errors := (Program.mk.inj heq).2.2.2.2.2.2.2.2.2
    exact fun error herror =>
      error.ofJson?_toJson_iff.mp (read_of_toList?_map hread error herror)
  · intro hnumbers
    refine ⟨errors, toList?_map fun error herror => ?_, rfl⟩
    exact error.ofJson?_toJson_iff.mpr (hnumbers error herror)

/-- **A description is read back exactly if the numbers of all errors have 32 bits.** -/
theorem Root.ofJson?_toJson_iff (root : Root) :
    Root.ofJson? root.toJson = some root ↔
      ∀ program ∈ root.programs, program.HasErrorNumbers := by
  obtain ⟨standard, version, program, additionalPrograms⟩ := root
  have hread : Root.ofJson? (Root.toJson ⟨standard, version, program, additionalPrograms⟩) =
      (Program.ofJson? program.toJson).bind fun program =>
        (toList? Program.ofJson? (.array (additionalPrograms.map Program.toJson))).map
          fun additionalPrograms => ⟨standard, version, program, additionalPrograms⟩ := by
    simp [Root.ofJson?, Root.toJson, record?_object, Option.map_eq_bind, Function.comp_def]
  rw [hread, Root.programs, List.forall_mem_cons, ← Program.ofJson?_toJson_iff]
  constructor
  · intro h
    obtain ⟨program', hprogram, h⟩ := Option.bind_eq_some_iff.mp h
    obtain ⟨programs', hprograms, heq⟩ := Option.map_eq_some_iff.mp h
    obtain ⟨-, -, rfl, rfl⟩ := Root.mk.inj heq
    exact ⟨hprogram, fun program hmem =>
      program.ofJson?_toJson_iff.mp (read_of_toList?_map hprograms program hmem)⟩
  · rintro ⟨hprogram, hnumbers⟩
    rw [hprogram, Option.bind_some, toList?_map fun program hmem =>
      program.ofJson?_toJson_iff.mpr (hnumbers program hmem)]
    rfl

/-! ## All nodes -/

/-- A node comes back from its document, and writing what came back gives the document again. -/
def Survives {α : Type} (write : α → Json) (read? : Json → Option α) (node : α) : Prop :=
  read? (write node) = some node ∧ (read? (write node)).map write = some (write node)

theorem survives_iff {α : Type} {write : α → Json} {read? : Json → Option α} {node : α} :
    Survives write read? node ↔ read? (write node) = some node := by
  refine ⟨fun h => h.1, fun h => ⟨h, ?_⟩⟩
  rw [h, Option.map_some]

/-- **The nodes of descriptions survive being written and read.** Types, values, input values,
discriminators, derived addresses, accounts and instructions always do; programs and descriptions do
exactly if the number of each error has the 32 bits that a description admits. -/
theorem nodes_survive :
    (∀ type, Survives TypeNode.toJson TypeNode.ofJson? type) ∧
    (∀ value, Survives ValueNode.toJson ValueNode.ofJson? value) ∧
    (∀ value, Survives InputValue.toJson InputValue.ofJson? value) ∧
    (∀ discriminator, Survives Discriminator.toJson Discriminator.ofJson? discriminator) ∧
    (∀ pda, Survives Pda.toJson Pda.ofJson? pda) ∧
    (∀ account, Survives Account.toJson Account.ofJson? account) ∧
    (∀ instruction, Survives Instruction.toJson Instruction.ofJson? instruction) ∧
    (∀ program, Survives Program.toJson Program.ofJson? program ↔ program.HasErrorNumbers) ∧
    ∀ root, Survives Root.toJson Root.ofJson? root ↔
      ∀ program ∈ root.programs, program.HasErrorNumbers := by
  simp only [survives_iff]
  exact ⟨TypeNode.ofJson?_toJson, ValueNode.ofJson?_toJson, InputValue.ofJson?_toJson,
    Discriminator.ofJson?_toJson, Pda.ofJson?_toJson, Account.ofJson?_toJson,
    Instruction.ofJson?_toJson, Program.ofJson?_toJson_iff, Root.ofJson?_toJson_iff⟩

end DartClient.Idl
