import DartClient.Proofs.Manifest.Links
import DartClient.Proofs.Seed.Automatic

/-!
# Seeds and their positions

The order of the seeds is part of an address, so every declared seed has to be resolved in its
place, whether it is constant, bound or left to the caller. What a variable seed becomes is decided
by the first binding of its name; all other bindings are of no account. So bindings may be given in
any order that keeps those of one name in theirs, and may be given for names that no seed has.

## Main definitions

* `BindsFirst`: the first binding of a name has a value.
* `Resolver.Gives`: what a declared seed becomes under some bindings.
* `Idl.Pda.variableNames`: the names of the variable seeds.

## Main results

* `Resolver.gives_of_resolveSeed`: what one declared seed becomes.
* `Resolver.resolveSeeds_congr`: bindings that bind the variable seeds alike give one derivation.
* `Resolver.resolveSeeds_spec`: seeds are resolved place by place, by the first binding of a name.
-/

namespace DartClient

open Idl (TypeNode ValueNode InputValue SeedValue PdaSeed Pda)

/-! ## Bindings -/

/-- Of the bindings of a name the first one has the given value. -/
def BindsFirst (bindings : List SeedValue) (name : String) (value : InputValue) : Prop :=
  ∃ before after, bindings = before ++ ⟨name, value⟩ :: after ∧ ∀ other ∈ before, other.name ≠ name

section Bindings

variable {bindings : List SeedValue} {name : String} {value : InputValue}

theorem boundValue?_eq_some_iff :
    boundValue? bindings name = some value ↔ BindsFirst bindings name value := by
  simp only [boundValue?, Option.map_eq_some_iff, List.find?_eq_some_iff_append, BindsFirst]
  constructor
  · rintro ⟨⟨own, _⟩, ⟨hown, before, after, hsplit, hbefore⟩, rfl⟩
    obtain rfl := eq_of_beq hown
    exact ⟨before, after, hsplit, fun other hother => by simpa using hbefore other hother⟩
  · rintro ⟨before, after, hsplit, hbefore⟩
    refine ⟨⟨name, value⟩, ⟨beq_self_eq_true name, before, after, hsplit, ?_⟩, rfl⟩
    exact fun other hother => by simpa using hbefore other hother

theorem boundValue?_eq_none_iff :
    boundValue? bindings name = none ↔ ∀ binding ∈ bindings, binding.name ≠ name := by
  simp [boundValue?]

/-- Bindings of other names may be left out. -/
theorem boundValue?_filter {keeps : SeedValue → Bool}
    (h : ∀ binding : SeedValue, binding.name = name → keeps binding = true) :
    boundValue? (bindings.filter keeps) name = boundValue? bindings name := by
  rw [boundValue?, boundValue?, List.find?_filter]
  congr 2
  funext binding
  by_cases hname : binding.name = name
  · simp [hname, h binding hname]
  · simp [hname]

end Bindings

/-! ## One seed -/

namespace Seed

/-- The seed is a text or bytes. -/
inductive IsLiteral : Seed → Prop
  | utf8 (text : String) : IsLiteral (.utf8 text)
  | bytes (data : List UInt8) : IsLiteral (.bytes data)

/-- The seed is a value that the caller has to give. -/
def isParameter : Seed → Bool
  | .parameter _ _ => true
  | _ => false

theorem IsLiteral.isParameter_eq_false {seed : Seed} (h : seed.IsLiteral) :
    seed.isParameter = false := by
  cases h <;> rfl

/-- A seed that is the same whatever it is evaluated on is a literal. -/
theorem isLiteral_of_evaluate {seed : Seed} {bytes : List UInt8}
    (h : ∀ inputs, seed.evaluate inputs = .ok bytes) : seed.IsLiteral := by
  cases seed with
  | utf8 text => exact .utf8 text
  | bytes data => exact .bytes data
  | programId =>
    -- Two programs have two addresses.
    have hzero := h ⟨Resolver.zeroAddress, fun _ => none, fun _ => none⟩
    have hone := h ⟨Resolver.oneAddress, fun _ => none, fun _ => none⟩
    exact absurd (Except.ok.inj (hzero.trans hone.symm)) (by decide)
  | account | argument | parameter =>
    cases h ⟨Resolver.zeroAddress, fun _ => none, fun _ => none⟩

end Seed

/-- The seed that a parameter is for. -/
def SeedParameter.seed (parameter : SeedParameter) : Seed :=
  .parameter parameter.name parameter.encoding

namespace Resolver

variable {resolver : Resolver} {place : String} {bindings : List SeedValue}

/-- What a declared seed becomes: a parameter if nothing is bound to its name, and otherwise what
the first binding of its name says. -/
inductive Gives (resolver : Resolver) (place : String) (bindings : List SeedValue) :
    PdaSeed → Seed → Prop
  | parameter {name : String} {type : TypeNode} {docs : List String} {encoding : SeedEncoding}
      {targetType : String} (hfree : ∀ binding ∈ bindings, binding.name ≠ name)
      (hencoding : resolver.seedEncoding type name = .ok (encoding, targetType)) :
      Gives resolver place bindings (.variable name type docs) (.parameter name encoding)
  | account {name account : String} {type : TypeNode} {docs : List String}
      (hbound : BindsFirst bindings name (.account account)) :
      Gives resolver place bindings (.variable name type docs) (.account account)
  | argument {name argument : String} {type : TypeNode} {docs : List String}
      {encoding : SeedEncoding} {targetType : String}
      (hbound : BindsFirst bindings name (.argument argument))
      (hencoding : resolver.seedEncoding type name = .ok (encoding, targetType)) :
      Gives resolver place bindings (.variable name type docs) (.argument argument encoding)
  | programId {name : String} {type : TypeNode} {docs : List String}
      (hbound : BindsFirst bindings name .programId) :
      Gives resolver place bindings (.variable name type docs) .programId
  | literal {name : String} {type : TypeNode} {docs : List String} {value : InputValue}
      {literal : ValueNode} {seed : Seed} (hbound : BindsFirst bindings name value)
      (hliteral : value.literal? = some literal)
      (hseed : constantSeed name literal type = .ok seed) (hisLiteral : seed.IsLiteral) :
      Gives resolver place bindings (.variable name type docs) seed
  | constantProgramId {type : TypeNode} {value : ValueNode} (hnames : value.namesProgram = true) :
      Gives resolver place bindings (.constant type value) .programId
  | constant {type : TypeNode} {value : ValueNode} {seed : Seed}
      (hnames : value.namesProgram = false) (hseed : constantSeed place value type = .ok seed)
      (hisLiteral : seed.IsLiteral) : Gives resolver place bindings (.constant type value) seed

/-- A literal value other than the program gives a literal seed. -/
theorem isLiteral_of_constantSeed {value : ValueNode} {type : TypeNode} {seed : Seed}
    (hnames : value.namesProgram = false) (h : constantSeed place value type = .ok seed) :
    seed.IsLiteral := by
  rcases constantSeed_spec h with ⟨hprogram, -⟩ | ⟨-, bytes, hbytes⟩
  · exact absurd hprogram (by simp [hnames])
  · exact Seed.isLiteral_of_evaluate hbytes

/-- A seed becomes what is bound to it, which is no parameter. -/
theorem gives_of_boundSeed {name : String} {type : TypeNode} {docs : List String}
    {value : InputValue} {seed : Seed} (hbound : BindsFirst bindings name value)
    (h : resolver.boundSeed name type value = .ok seed) :
    resolver.Gives place bindings (.variable name type docs) seed ∧ seed.isParameter = false := by
  cases value with
  | account account =>
    obtain rfl := Except.ok.inj h
    exact ⟨.account hbound, rfl⟩
  | argument argument =>
    obtain ⟨⟨encoding, targetType⟩, hencoding, hresult⟩ := Resolved.bind_eq_ok_iff.mp h
    obtain rfl := Except.ok.inj hresult
    exact ⟨.argument hbound hencoding, rfl⟩
  | programId =>
    obtain rfl := Except.ok.inj h
    exact ⟨.programId hbound, rfl⟩
  | number | string | boolean | bytes | publicKey =>
    have hliteral := isLiteral_of_constantSeed rfl h
    exact ⟨.literal hbound rfl h hliteral, hliteral.isParameter_eq_false⟩
  -- Other addresses and conditions are refused.
  | pda | conditional | identity | payer | unsupported => cases h

/-- Bindings do not matter to a constant, which is no parameter. -/
theorem gives_of_constantSeed {type : TypeNode} {value : ValueNode} {seed : Seed}
    (h : constantSeed place value type = .ok seed) :
    resolver.Gives place bindings (.constant type value) seed ∧ seed.isParameter = false := by
  cases hnames : value.namesProgram with
  | true =>
    rcases constantSeed_spec h with ⟨-, rfl⟩ | ⟨hother, -⟩
    · exact ⟨.constantProgramId hnames, rfl⟩
    · exact absurd hnames (by simp [hother])
  | false =>
    have hliteral := isLiteral_of_constantSeed hnames h
    exact ⟨.constant hnames h hliteral, hliteral.isParameter_eq_false⟩

/-- **What one declared seed becomes.** The caller is asked for it if it is a parameter. -/
theorem gives_of_resolveSeed {seed : PdaSeed} {resolved : ResolvedSeed}
    (h : resolver.resolveSeed place bindings seed = .ok resolved) :
    resolver.Gives place bindings seed resolved.seed ∧
      resolved.parameter.map SeedParameter.seed = Option.guard Seed.isParameter resolved.seed := by
  cases seed with
  | constant type value =>
    obtain ⟨seed, hseed, hresult⟩ := Resolved.bind_eq_ok_iff.mp h
    obtain rfl := Except.ok.inj hresult
    obtain ⟨hgives, hparameter⟩ := gives_of_constantSeed hseed
    exact ⟨hgives, by simp [Option.guard, hparameter]⟩
  | «variable» name type docs =>
    simp only [resolveSeed] at h
    cases hbound : boundValue? bindings name with
    | none =>
      rw [hbound] at h
      obtain ⟨⟨encoding, targetType⟩, hencoding, hresult⟩ := Resolved.bind_eq_ok_iff.mp h
      obtain rfl := Except.ok.inj hresult
      exact ⟨.parameter (boundValue?_eq_none_iff.mp hbound) hencoding, rfl⟩
    | some value =>
      rw [hbound] at h
      obtain ⟨seed, hseed, hresult⟩ := Resolved.bind_eq_ok_iff.mp h
      obtain rfl := Except.ok.inj hresult
      obtain ⟨hgives, hparameter⟩ := gives_of_boundSeed (boundValue?_eq_some_iff.mp hbound) hseed
      exact ⟨hgives, by simp [Option.guard, hparameter]⟩

/-! ## All seeds -/

/-- Seeds in a row ask the caller for the parameters among them, in their order. -/
theorem parameters_of_forall₂ {seeds : List PdaSeed} {resolved : List ResolvedSeed}
    (h : List.Forall₂ (fun seed one => resolver.resolveSeed place bindings seed = .ok one)
      seeds resolved) :
    (resolved.filterMap (·.parameter)).map SeedParameter.seed =
      (resolved.map (·.seed)).filter Seed.isParameter := by
  rw [List.map_filterMap]
  induction h with
  | nil => rfl
  | @cons _ one _ _ hhead _ ih =>
    have hparameter := (gives_of_resolveSeed hhead).2
    rw [List.map_cons, List.filter_cons, ← ih]
    split
    case isTrue hown => exact List.filterMap_cons_some (by simp [hparameter, Option.guard, hown])
    case isFalse hown => exact List.filterMap_cons_none (by simp [hparameter, Option.guard, hown])

/-- The seeds of an address become what their bindings say, each in its place. -/
theorem forall₂_gives_of_resolveSeeds {pda : Pda} {derivation : Derivation}
    (h : resolver.resolveSeeds pda bindings = .ok derivation) :
    List.Forall₂ (resolver.Gives pda.name bindings) pda.seeds derivation.seeds := by
  obtain ⟨resolved, hseeds, rfl⟩ := resolveSeeds_eq_ok_iff.mp h
  rw [List.forall₂_map_right_iff]
  exact hseeds.imp fun _ _ hseed => (gives_of_resolveSeed hseed).1

/-- The caller is asked for the parameters among the seeds of an address, in their order. -/
theorem parameters_of_resolveSeeds {pda : Pda} {derivation : Derivation}
    (h : resolver.resolveSeeds pda bindings = .ok derivation) :
    derivation.parameters.map SeedParameter.seed = derivation.seeds.filter Seed.isParameter := by
  obtain ⟨resolved, hseeds, rfl⟩ := resolveSeeds_eq_ok_iff.mp h
  exact parameters_of_forall₂ hseeds

end Resolver

/-! ## Bindings that count -/

/-- The name of a variable seed. -/
def Idl.PdaSeed.variableName? : PdaSeed → Option String
  | .constant _ _ => none
  | .variable name _ _ => some name

/-- The names of the variable seeds of an address. -/
def Idl.Pda.variableNames (pda : Pda) : List String := pda.seeds.filterMap PdaSeed.variableName?

namespace Resolver

variable {resolver : Resolver} {place : String} {bindings bindings' : List SeedValue} {pda : Pda}

/-- A seed depends on what is bound to its name. -/
theorem resolveSeed_congr {seed : PdaSeed} (h : ∀ name, seed.variableName? = some name →
    boundValue? bindings' name = boundValue? bindings name) :
    resolver.resolveSeed place bindings' seed = resolver.resolveSeed place bindings seed := by
  cases seed with
  | constant => rfl
  | «variable» name type docs => rw [resolveSeed, resolveSeed, h name rfl]

/-- **Bindings that bind the variable seeds alike** give one derivation, or one error. -/
theorem resolveSeeds_congr (h : ∀ name ∈ pda.variableNames,
    boundValue? bindings' name = boundValue? bindings name) :
    resolver.resolveSeeds pda bindings' = resolver.resolveSeeds pda bindings := by
  have hseeds : pda.seeds.mapM (resolver.resolveSeed pda.name bindings') =
      pda.seeds.mapM (resolver.resolveSeed pda.name bindings) := by
    apply mapM_congr
    intro seed hseed
    apply resolveSeed_congr
    exact fun name hname => h name (List.mem_filterMap.mpr ⟨seed, hseed, hname⟩)
  rw [resolveSeeds, resolveSeeds, hseeds]

/-- **Seeds are resolved place by place, by the first binding of a name.** A derivation has one seed
for each declared seed, in order, which is what the first binding of its name says, and the caller
is asked for the parameters among them, in order. Nothing but these first bindings matters. So
bindings may be permuted as long as those of one name keep their order, and bindings of names that
no variable seed has may be added anywhere. -/
theorem resolveSeeds_spec :
    (∀ derivation, resolver.resolveSeeds pda bindings = .ok derivation →
      List.Forall₂ (resolver.Gives pda.name bindings) pda.seeds derivation.seeds ∧
      derivation.parameters.map SeedParameter.seed = derivation.seeds.filter Seed.isParameter) ∧
    (∀ bindings', (∀ name ∈ pda.variableNames, ∀ value,
        BindsFirst bindings' name value ↔ BindsFirst bindings name value) →
      resolver.resolveSeeds pda bindings' = resolver.resolveSeeds pda bindings) ∧
    (∀ bindings', (∀ name, bindings'.filter (·.name == name) = bindings.filter (·.name == name)) →
      resolver.resolveSeeds pda bindings' = resolver.resolveSeeds pda bindings) ∧
    (∀ bindings', bindings'.filter (·.name ∈ pda.variableNames) =
        bindings.filter (·.name ∈ pda.variableNames) →
      resolver.resolveSeeds pda bindings' = resolver.resolveSeeds pda bindings) := by
  refine ⟨fun derivation h => ?_, fun bindings' h => ?_, fun bindings' h => ?_,
    fun bindings' h => ?_⟩
  · exact ⟨forall₂_gives_of_resolveSeeds h, parameters_of_resolveSeeds h⟩
  · apply resolveSeeds_congr
    intro name hname
    apply Option.ext
    intro value
    rw [boundValue?_eq_some_iff, boundValue?_eq_some_iff]
    exact h name hname value
  · apply resolveSeeds_congr
    intro name _
    -- Bindings of the same name are the same.
    have hkept : ∀ binding : SeedValue, binding.name = name → (binding.name == name) = true :=
      fun _ => beq_iff_eq.mpr
    rw [← boundValue?_filter hkept, h name, boundValue?_filter hkept]
  · apply resolveSeeds_congr
    intro name hname
    have hkept : ∀ binding : SeedValue, binding.name = name →
        decide (binding.name ∈ pda.variableNames) = true := by
      rintro binding rfl
      exact decide_eq_true hname
    rw [← boundValue?_filter hkept, h, boundValue?_filter hkept]

/-- An address with constant and variable seeds in turn. -/
def purse : Pda where
  name := "purse"
  docs := []
  seeds := [.constant (.string .utf8) (.string "purse"), .variable "owner" .publicKey [],
    .variable "coin" (.number ⟨.u16, .little⟩) [], .constant .publicKey .programId,
    .variable "serial" (.number ⟨.u8, .little⟩) [], .variable "issue" (.number ⟨.u8, .little⟩) []]
  programId := none

/-- All variable seeds but the serial number are bound, the owner twice. -/
def purseBindings : List SeedValue := [⟨"owner", .account "holder"⟩, ⟨"owner", .programId⟩,
  ⟨"coin", .argument "kind"⟩, ⟨"issue", .number (.int 7)⟩]

/-- The last binding may stand in front of the others. -/
theorem filter_purseBindings (name : String) :
    (⟨"issue", .number (.int 7)⟩ :: purseBindings.dropLast).filter (·.name == name) =
      purseBindings.filter (·.name == name) := by
  by_cases hname : name = "issue"
  · subst hname
    rfl
  · have hissue : ("issue" == name) = false := beq_false_of_ne (Ne.symm hname)
    simp [purseBindings, List.filter_cons, hissue]

/-- The caller has to give the serial number, which stands between bound and constant seeds. The
second binding of the owner, the place of the last binding and a binding for a name without seed do
not matter. -/
theorem resolveSeeds_spec_purse : ∃ derivation,
    linkless.resolveSeeds purse purseBindings = .ok derivation ∧
    List.Forall₂ (linkless.Gives "purse" purseBindings) purse.seeds derivation.seeds ∧
    derivation.parameters.map SeedParameter.seed = [.parameter "serial" (.number .u8)] ∧
    linkless.resolveSeeds purse (purseBindings.eraseIdx 1) = .ok derivation ∧
    linkless.resolveSeeds purse (⟨"issue", .number (.int 7)⟩ :: purseBindings.dropLast) =
      .ok derivation ∧
    linkless.resolveSeeds purse (⟨"color", .payer⟩ :: purseBindings) = .ok derivation := by
  have hresolved : ∃ derivation, linkless.resolveSeeds purse purseBindings = .ok derivation ∧
      derivation.seeds.filter Seed.isParameter = [.parameter "serial" (.number .u8)] :=
    ⟨_, rfl, rfl⟩
  obtain ⟨derivation, h, hserial⟩ := hresolved
  obtain ⟨hresult, hfirst, hpermuted, hadded⟩ :=
    @resolveSeeds_spec linkless purseBindings purse
  obtain ⟨hgives, hparameters⟩ := hresult derivation h
  refine ⟨derivation, h, hgives, hparameters.trans hserial, ?_, ?_, ?_⟩
  · refine (hfirst _ fun name hname value => ?_).trans h
    rw [← boundValue?_eq_some_iff, ← boundValue?_eq_some_iff]
    have hnames : "owner" = name ∨ "coin" = name ∨ "serial" = name ∨ "issue" = name := by
      simpa [Pda.variableNames, purse, PdaSeed.variableName?] using hname
    rcases hnames with rfl | rfl | rfl | rfl <;> exact Iff.rfl
  · exact (hpermuted _ filter_purseBindings).trans h
  · exact (hadded _ rfl).trans h

end Resolver

end DartClient
