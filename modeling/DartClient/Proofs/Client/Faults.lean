import DartClient.Client.Generate

/-!
# Nothing inside a program lies outside of it

Many things can go wrong while a unit is generated, and one cause among them is reserved for a unit
that belongs to no program. No step of generating a unit of a program has that cause: this is gone
through step by step, as a step fails with what one of the steps that it is made of fails with.

## Main definitions

* `Resolved.Inside`: a step does not fail because something lies outside of any program.

## Main results

* `Resolver.inside_resolve`, `Resolver.inside_resolveSeeds`: types and seeds.
* `ClientUnit.inside_generate`: the units of programs.
-/

namespace DartClient

open Idl (TypeNode ValueNode StructField EnumVariant NumberType Count BytesEncoding PdaSeed Pda
  InstructionAccount SeedValue InputValue)

variable {α β : Type}

/-- A step does not fail because something lies outside of any program. -/
def Resolved.Inside (step : Resolved α) : Prop := ∀ place, step ≠ .error (.missingProgram place)

namespace Resolved

@[simp] theorem inside_ok (a : α) : Inside (.ok a) := nofun

@[simp] theorem inside_pure (a : α) : Inside (pure a) := nofun

@[simp] theorem inside_error {error : ClientError} :
    Inside (.error error : Resolved α) ↔ ∀ place, error ≠ .missingProgram place := by
  simp [Inside]

@[simp] theorem inside_refuse (kind : String) (ctx : ResolveContext) (fault : TypeFault) :
    Inside (refuse kind ctx fault : Resolved α) := nofun

/-- A sequence fails with what its first step or the rest fails with. -/
theorem Inside.bind {step : Resolved α} {next : α → Resolved β} (h : step.Inside)
    (hnext : ∀ a, (next a).Inside) : (step >>= next).Inside := by
  cases step with
  | ok a => exact hnext a
  | error error => exact inside_error.mpr (inside_error.mp h)

theorem Inside.map {step : Resolved α} (h : step.Inside) (f : α → β) :
    Inside (Except.map f step) := by
  cases step with
  | ok a => exact inside_ok (f a)
  | error error => exact inside_error.mpr (inside_error.mp h)

theorem inside_mapM {step : α → Resolved β} {items : List α} (h : ∀ item, (step item).Inside) :
    (items.mapM step).Inside := by
  induction items with
  | nil => exact inside_pure []
  | cons item items ih =>
    rw [List.mapM_cons]
    exact (h item).bind fun _ => ih.bind fun _ => inside_pure _

theorem inside_mapError {ε : Type} {result : Except ε α} {fault : ε → ClientError}
    (h : ∀ error place, fault error ≠ .missingProgram place) :
    Inside (result.mapError fault) := by
  cases result with
  | ok a => exact inside_ok a
  | error error => exact inside_error.mpr (h error)

end Resolved

open Resolved

/-! ## Types -/

theorem inside_littleEndianFormat (number : NumberType) (kind : String) (ctx : ResolveContext) :
    (littleEndianFormat number kind ctx).Inside := by
  unfold littleEndianFormat
  split <;> simp

theorem inside_countLength (count : Count) (kind : String) (ctx : ResolveContext) :
    (countLength count kind ctx).Inside := by
  cases count with
  | fixed | remainder => exact inside_ok _
  | prefixed width => exact (inside_littleEndianFormat width kind ctx).map _

theorem inside_numberManifest (number : NumberType) (kind : String) (ctx : ResolveContext) :
    (numberManifest number kind ctx).Inside :=
  (inside_littleEndianFormat number kind ctx).bind fun _ => inside_pure _

theorem inside_stringManifest (encoding : BytesEncoding) (length : Length) (kind : String)
    (ctx : ResolveContext) : (stringManifest encoding length kind ctx).Inside := by
  unfold stringManifest
  split <;> simp

section Level

variable {child : ResolveChild} (hchild : ∀ node ctx, (child node ctx).Inside)
  (ctx : ResolveContext)

include hchild

theorem inside_tupleManifest (items : List TypeNode) : (tupleManifest child ctx items).Inside :=
  (inside_mapM fun item => hchild item _).bind fun _ => inside_pure _

theorem inside_structManifest (fields : List StructField) :
    (structManifest child ctx fields).Inside := by
  have hfield (field : StructField) : (fieldManifest child ctx field).Inside :=
    (hchild field.type _).bind fun _ => inside_pure _
  exact (inside_mapM hfield).bind fun _ => inside_pure _

theorem inside_payloadItems (items : List TypeNode) : ∀ position : Nat,
    (payloadItems child ctx position items).Inside := by
  induction items with
  | nil => exact fun _ => inside_ok []
  | cons item items ih =>
    intro position
    have hitem : (payloadItem child ctx position item).Inside :=
      (hchild item _).bind fun _ => inside_pure _
    exact hitem.bind fun _ => (ih (position + 1)).bind fun _ => inside_pure _

theorem inside_variantPayload (variant : EnumVariant) :
    (variantPayload child ctx variant).Inside := by
  cases variant with
  | empty name => exact inside_ok _
  | tuple name items =>
    exact (inside_payloadItems hchild ctx items 0).bind fun _ => inside_pure _
  | struct name fields =>
    exact (inside_structManifest hchild ctx fields).bind fun _ => inside_pure _

theorem inside_variantManifests (variants : List EnumVariant) : ∀ index : Nat,
    (variantManifests child ctx index variants).Inside := by
  -- The index goes into the manifests and grows with each variant, so it is arbitrary here.
  induction variants with
  | nil => exact fun _ => inside_ok []
  | cons variant variants ih =>
    intro index
    exact (inside_variantPayload hchild _ variant).bind fun _ =>
      (ih (index + 1)).bind fun _ => inside_pure _

theorem inside_enumManifest (variants : List EnumVariant) (size : NumberType) :
    (enumManifest child ctx variants size).Inside :=
  (inside_littleEndianFormat size _ ctx).bind fun _ =>
    (inside_variantManifests hchild ctx variants 0).bind fun _ => inside_pure _

theorem Resolver.inside_linkManifest (resolver : Resolver) (link : String)
    (program : Option String) : (resolver.linkManifest child ctx link program).Inside := by
  unfold linkManifest
  split
  case h_1 => simp
  case h_2 defined _ =>
    simp only []
    split
    · exact inside_pure _
    · exact inside_pure _
    · exact (hchild defined.type _).bind fun _ => inside_pure _

/-- **One level** fails with what the level below fails with, or else with something about types. -/
theorem Resolver.inside_resolveLevel (resolver : Resolver) (node : TypeNode) :
    (resolver.resolveLevel child node ctx).Inside := by
  unfold resolveLevel
  split
  case isTrue => exact inside_refuse _ _ _
  case isFalse =>
    -- One case for each kind of type, in the order of the definition.
    split
    · exact inside_numberManifest _ _ _
    · exact inside_numberManifest _ _ _
    · exact inside_numberManifest _ _ _
    · exact inside_numberManifest _ _ _
    · exact (inside_littleEndianFormat _ _ _).bind fun _ => inside_pure _
    · exact inside_stringManifest _ _ _ _
    · exact inside_ok _
    · exact inside_ok _
    · refine (inside_countLength _ _ _).bind fun _ => ?_
      split
      · exact inside_pure _
      · exact (hchild _ _).bind fun _ => inside_pure _
    · exact (inside_littleEndianFormat _ _ _).bind fun _ =>
        (hchild _ _).bind fun _ => inside_pure _
    · exact (inside_countLength _ _ _).bind fun _ => (hchild _ _).bind fun _ => inside_pure _
    · exact (inside_countLength _ _ _).bind fun _ =>
        (hchild _ _).bind fun _ => (hchild _ _).bind fun _ => inside_pure _
    · exact inside_tupleManifest hchild ctx _
    · exact inside_stringManifest _ _ _ _
    · exact inside_ok _
    · exact (hchild _ _).bind fun _ => inside_pure _
    · refine (inside_littleEndianFormat _ _ _).bind fun _ => ?_
      split
      · exact inside_stringManifest _ _ _ _
      · exact inside_pure _
      · exact (hchild _ _).bind fun _ => inside_pure _
    · exact resolver.inside_linkManifest hchild ctx _ _
    · exact inside_structManifest hchild ctx _
    · exact inside_enumManifest hchild ctx _ _
    · exact inside_refuse _ _ _
    · exact inside_ok _

end Level

namespace Resolver

variable (resolver : Resolver)

theorem inside_resolveWithin (levels : Nat) : ∀ node ctx,
    (resolver.resolveWithin levels node ctx).Inside := by
  -- A link leads to a type that is no part of the node, so the induction is on the levels left.
  induction levels with
  | zero => exact fun node ctx => inside_refuse _ _ _
  | succ levels ih => exact fun node ctx => resolver.inside_resolveLevel ih ctx node

/-- **A type is inside of its program.** -/
theorem inside_resolve (node : TypeNode) (ctx : ResolveContext) :
    (resolver.resolve node ctx).Inside := resolver.inside_resolveWithin _ node ctx

theorem inside_resolveArguments (arguments : List Idl.Argument) (ctx : ResolveContext) :
    (resolver.resolveArguments arguments ctx).Inside :=
  inside_structManifest resolver.inside_resolve ctx _

end Resolver

/-! ## Literal values -/

namespace Idl

theorem inside_readAddress (text place : String) : Inside (readAddress text place) := by
  unfold readAddress
  split <;> simp

theorem BytesValue.inside_decode (value : BytesValue) (place : String) :
    Inside (value.decode place) := by
  unfold decode
  split
  · exact inside_mapError (by simp)
  · exact inside_mapError (by simp)
  · exact inside_mapError (by simp)
  · exact inside_ok _

theorem inside_listBytes (place : String) (items : List ValueNode) :
    Inside (listBytes place items) := by
  refine inside_mapM fun item => ?_
  unfold ValueNode.byte
  split
  · split <;> simp
  · simp

theorem inside_numberBytes (place : String) (number : Json.Number) (format : NumberFormat) :
    Inside (numberBytes place number format) := by
  unfold numberBytes
  split
  · exact inside_mapError (by simp)
  · simp

end Idl

theorem inside_discriminatorBytes (place : String) : ∀ (value : ValueNode)
    (type : Option TypeNode), Inside (discriminatorBytes place value type)
  | .constant type value, _ => inside_discriminatorBytes place value (some type)
  | .bytes value, _ => value.inside_decode place
  | .string _, _ => inside_ok _
  | .array items, _ => Idl.inside_listBytes place items
  | .number value, _ => Idl.inside_numberBytes place value _
  | .boolean _, _ | .publicKey _ _, _ | .tuple _, _ | .absent, _ | .present _, _ | .programId, _
  | .unsupported, _ => inside_error.mpr nofun

theorem Candidates.inside_discriminator (candidates : Candidates) :
    Inside candidates.discriminator := by
  unfold discriminator
  split
  · exact (inside_discriminatorBytes _ _ _).bind fun _ => inside_pure _
  · split
    · exact (inside_discriminatorBytes _ _ _).bind fun _ => inside_pure _
    · exact inside_ok _

/-! ## Seeds -/

theorem inside_constantSeed (place : String) : ∀ (value : ValueNode) (type : TypeNode),
    (constantSeed place value type).Inside
  | .string _, _ | .programId, _ | .boolean _, _ => inside_ok _
  | .bytes value, _ => (value.inside_decode place).map _
  | .array items, _ => (Idl.inside_listBytes place items).map _
  | .publicKey key _, _ => (Idl.inside_readAddress key place).map _
  | .number value, type => by
    unfold constantSeed
    cases type.plainNumber? with
    | some format => exact (Idl.inside_numberBytes place value format).map _
    | none => exact inside_error.mpr nofun
  | .constant type value, _ => inside_constantSeed place value type
  | .tuple _, _ | .absent, _ | .present _, _ | .unsupported, _ => inside_error.mpr nofun

namespace Derivation

variable (derivation : Derivation)

theorem inside_checkLength (position length : Nat) :
    Inside (derivation.checkLength position length) := by
  unfold checkLength
  split <;> simp

theorem inside_checkLiterals (seeds : List Seed) : ∀ position : Nat,
    Inside (derivation.checkLiterals position seeds) := by
  induction seeds with
  | nil => exact fun _ => inside_ok ()
  | cons seed seeds ih =>
    intro position
    unfold checkLiterals
    split
    · exact (derivation.inside_checkLength _ _).bind fun _ => ih (position + 1)
    · exact ih (position + 1)

theorem inside_checkLimits : Inside derivation.checkLimits := by
  have hcount : Inside derivation.checkCount := by
    unfold checkCount
    split <;> simp
  exact hcount.bind fun _ => derivation.inside_checkLiterals derivation.seeds 0

end Derivation

namespace Resolver

variable (resolver : Resolver)

theorem inside_seedEncoding (type : TypeNode) (seed : String) :
    (resolver.seedEncoding type seed).Inside := by
  refine (resolver.inside_resolve type _).bind fun manifest => ?_
  split <;> simp

theorem inside_boundSeed (seed : String) (type : TypeNode) (value : InputValue) :
    (resolver.boundSeed seed type value).Inside := by
  unfold boundSeed
  split
  · exact inside_ok _
  · exact (resolver.inside_seedEncoding type seed).bind fun _ => inside_pure _
  · exact inside_ok _
  · split
    · exact inside_constantSeed _ _ _
    · simp

/-- **The seeds of a derived address are inside of its program.** -/
theorem inside_resolveSeeds (pda : Pda) (bindings : List SeedValue) :
    (resolver.resolveSeeds pda bindings).Inside := by
  refine Inside.bind (inside_mapM fun seed => ?_) fun _ => inside_pure _
  unfold resolveSeed
  split
  · exact (inside_constantSeed _ _ _).bind fun _ => inside_pure _
  · split
    · exact (resolver.inside_seedEncoding _ _).bind fun _ => inside_pure _
    · exact (resolver.inside_boundSeed _ _ _).bind fun _ => inside_pure _

end Resolver

/-! ## Accounts of instructions -/

namespace Resolver

variable (resolver : Resolver)

theorem inside_derivedDefault (accounts : List InstructionAccount) (index : Nat) (account : String)
    (value : Idl.PdaValue) : (resolver.derivedDefault accounts index account value).Inside := by
  have hreferred : (resolver.referredPda account value.pda).Inside := by
    unfold referredPda
    split
    · exact inside_ok _
    · split <;> simp
  unfold derivedDefault
  refine hreferred.bind fun pda => (resolver.inside_resolveSeeds pda _).bind fun derivation =>
    derivation.inside_checkLimits.bind fun _ => ?_
  simp only []
  split
  case h_1 => split <;> exact (Idl.inside_readAddress _ _).bind fun _ => inside_pure _
  case h_2 => split <;> exact inside_pure _

theorem inside_accountDefault (settings : Settings) (accounts : List InstructionAccount)
    (index : Nat) (account : InstructionAccount) :
    (resolver.accountDefault settings accounts index account).Inside := by
  unfold accountDefault
  split
  · exact resolver.inside_derivedDefault _ _ _ _
  · exact (Idl.inside_readAddress _ _).bind fun _ => inside_pure _
  · exact inside_ok _
  · exact inside_ok _

theorem inside_builderAccountsFrom (settings : Settings) (accounts rest : List InstructionAccount) :
    ∀ index : Nat, (resolver.builderAccountsFrom settings accounts index rest).Inside := by
  induction rest with
  | nil => exact fun _ => inside_ok []
  | cons account rest ih =>
    intro index
    exact (resolver.inside_accountDefault settings accounts index account).bind fun _ =>
      (ih (index + 1)).bind fun _ => inside_pure _

/-! ## Pages -/

theorem inside_accountPage (account : Idl.Account) : (resolver.accountPage account).Inside := by
  have hclass : (resolver.accountClass account).Inside :=
    (resolver.inside_resolve _ _).bind fun _ =>
      (Candidates.inside_discriminator _).bind fun _ => inside_pure _
  exact hclass.bind fun _ => inside_pure _

theorem inside_instructionPage (instruction : Idl.Instruction) (accounts : List BuilderAccount)
    (program : Idl.Program) : (resolver.instructionPage instruction accounts program).Inside := by
  have hclass (discriminator : Discriminator) :
      (resolver.argumentClass? instruction discriminator).Inside := by
    unfold argumentClass?
    split
    · exact inside_pure _
    · exact (resolver.inside_resolveArguments _ _).bind fun _ => inside_pure _
  exact (Candidates.inside_discriminator _).bind fun discriminator =>
    (hclass discriminator).bind fun _ => inside_pure _

theorem inside_typePages (type : Idl.DefinedType) : (resolver.typePages type).Inside :=
  (resolver.inside_resolve _ _).bind fun _ => inside_pure _

theorem inside_seedManifests (seeds : List PdaSeed) : (resolver.seedManifests seeds).Inside := by
  induction seeds with
  | nil => exact inside_ok []
  | cons seed seeds ih =>
    cases seed with
    | constant type value => exact ih
    | «variable» name type docs =>
      exact (resolver.inside_resolve _ _).bind fun _ => ih.bind fun _ => inside_pure _

theorem inside_pdaPage (program : Idl.Program) (pda : Pda) :
    (resolver.pdaPage program pda).Inside := by
  have hprogram : Inside (derivingProgram program pda) := by
    unfold derivingProgram
    split
    · exact (Idl.inside_readAddress _ _).bind fun _ => inside_pure _
    · exact inside_ok _
  have hhelper : (resolver.derivationHelper program pda).Inside :=
    (resolver.inside_resolveSeeds pda []).bind fun derivation =>
      derivation.inside_checkLimits.bind fun _ =>
        (resolver.inside_seedManifests pda.seeds).bind fun _ => hprogram.bind fun _ => inside_pure _
  exact hhelper.bind fun _ => inside_pure _

end Resolver

theorem inside_programPage (program : Idl.Program) : Inside (programPage program) :=
  (Idl.inside_readAddress _ _).bind fun _ => inside_pure _

/-- **A unit that belongs to a program is never said to belong to none.** -/
theorem ClientUnit.inside_generate {part : ClientUnit} {program : Idl.Program}
    (hprogram : part.program? = some program) (dictionary : Dictionary) (settings : Settings) :
    (part.generate dictionary settings).Inside := by
  unfold generate
  -- With the program at hand, what is left is to make the pages of each kind of unit.
  rw [hprogram]
  simp only []
  split
  · exact Resolver.inside_accountPage _ _
  · exact (Resolver.inside_builderAccountsFrom _ settings _ _ _).bind fun _ =>
      Resolver.inside_instructionPage _ _ _ _
  · exact Resolver.inside_typePages _ _
  · exact Resolver.inside_pdaPage _ _ _
  · exact (inside_programPage program).bind fun _ => inside_pure _
  · exact inside_ok _

end DartClient
