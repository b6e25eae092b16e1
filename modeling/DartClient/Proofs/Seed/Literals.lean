import DartClient.Proofs.Seed.Automatic

/-!
# Seeds bound to literals

A variable seed may be bound to a literal, or it may be left to the caller, who then passes the
value that the literal stands for. The literal is turned to bytes when the seed is resolved, by the
declared type of the seed; the value when the seeds are evaluated, by the layout that the type is
resolved to. Both give the same bytes, except for a flag: as a literal it is always one byte, as a
value it has the width of its type.

## Main definitions

* `BindsOnly`: two lists of bindings that differ in one seed, which only the first one binds.
* `SeedInputs.AgreesBut`: inputs that differ in the value for that seed.
* `Resolver.IsWideFlag`: a declared seed that is a flag of several bytes.

## Main results

* `Resolver.evaluate_eq_iff_of_resolveSeed`: when one declared seed has the same bytes both ways.
* `Resolver.literal_eq_value_iff`: when the whole derivation has.
-/

namespace DartClient

open Idl (TypeNode ValueNode InputValue SeedValue PdaSeed Pda BytesValue)

/-- The first bindings bind the seed of the given name to a value, the others leave it to the
caller. All other seeds are bound alike. -/
structure BindsOnly (own free : List SeedValue) (name : String) (bound : InputValue) : Prop where
  /-- The seed is bound. -/
  isBound : boundValue? own name = some bound
  /-- The seed is left to the caller. -/
  isFree : boundValue? free name = none
  /-- The other seeds are bound alike. -/
  others : ∀ other, other ≠ name → boundValue? own other = boundValue? free other

/-- The inputs differ at most in the value of the given name; and not in this one either where it
also is the value of an argument that a seed is bound to. -/
structure SeedInputs.AgreesBut (inputs inputs' : SeedInputs) (name : String)
    (bindings : List SeedValue) : Prop where
  /-- The program is the same. -/
  program : inputs.program = inputs'.program
  /-- The accounts are the same. -/
  accounts : inputs.accounts = inputs'.accounts
  /-- The other values are the same. -/
  values : ∀ other, other ≠ name → inputs.values other = inputs'.values other
  /-- An argument of this name has the same value. -/
  argument : ∀ seed, boundValue? bindings seed = some (.argument name) →
    inputs.values name = inputs'.values name

/-- A seed is the same for inputs that have the values that it refers to in common. -/
theorem Seed.evaluate_congr_of_values {seed : Seed} {inputs inputs' : SeedInputs}
    (hprogram : inputs.program = inputs'.program) (haccounts : inputs.accounts = inputs'.accounts)
    (hvalues : ∀ name encoding, seed = .argument name encoding ∨ seed = .parameter name encoding →
      inputs.values name = inputs'.values name) :
    seed.evaluate inputs = seed.evaluate inputs' := by
  cases seed with
  | utf8 | bytes => rfl
  | programId => simp only [evaluate, hprogram]
  | account name => simp only [evaluate, haccounts]
  | argument name encoding =>
    simp only [evaluate, evaluateValue, hvalues name encoding (.inl rfl)]
  | parameter name encoding =>
    simp only [evaluate, evaluateValue, hvalues name encoding (.inr rfl)]

namespace Resolver

variable {resolver : Resolver} {own free : List SeedValue} {name : String} {bound : InputValue}
  {inputs inputs' : SeedInputs} {value : Value} {place : String}

/-- The declared seed has the given name, and its type is a flag of several bytes. -/
def IsWideFlag (resolver : Resolver) (name : String) : PdaSeed → Prop
  | .constant _ _ => False
  | .variable seed type _ => seed = name ∧ ∃ format targetType,
      resolver.seedEncoding type seed = .ok (.boolean format, targetType) ∧
        format.isSingleByte = false

/-! ## One seed -/

/-- A seed refers to the argument that it is bound to, or to its own name where it is left to the
caller. -/
theorem exists_reference_of_resolveSeed {bindings : List SeedValue} {declared : String}
    {type : TypeNode} {docs : List String} {resolved : ResolvedSeed} {referred : String}
    {encoding : SeedEncoding}
    (h : resolver.resolveSeed place bindings (.variable declared type docs) = .ok resolved)
    (hseed : resolved.seed = .argument referred encoding ∨
      resolved.seed = .parameter referred encoding) :
    boundValue? bindings declared = some (.argument referred) ∨ referred = declared := by
  simp only [resolveSeed] at h
  cases hbound : boundValue? bindings declared with
  | none =>
    rw [hbound] at h
    obtain ⟨⟨encoding, targetType⟩, -, hresult⟩ := Resolved.bind_eq_ok_iff.mp h
    obtain rfl := Except.ok.inj hresult
    rcases hseed with hseed | hseed
    · cases hseed
    · exact .inr (Seed.parameter.inj hseed).1.symm
  | some bound =>
    rw [hbound] at h
    obtain ⟨seed, hresolved, hresult⟩ := Resolved.bind_eq_ok_iff.mp h
    obtain rfl := Except.ok.inj hresult
    cases bound with
    | argument argument =>
      obtain ⟨⟨encoding, targetType⟩, -, hresult⟩ := Resolved.bind_eq_ok_iff.mp hresolved
      obtain rfl := Except.ok.inj hresult
      rcases hseed with hseed | hseed
      · exact .inl (congrArg _ (congrArg _ (Seed.argument.inj hseed).1))
      · cases hseed
    | account | programId =>
      obtain rfl := Except.ok.inj hresolved
      rcases hseed with hseed | hseed <;> cases hseed
    | number | string | boolean | bytes | publicKey =>
      -- A literal becomes bytes, or the address of the program, and refers to no value.
      have hfree := not_needsCaller_of_constantSeed hresolved
      rcases hseed with rfl | rfl
      · exact absurd (.argument _ _) hfree
      · exact absurd (.parameter _ _) hfree
    | pda | conditional | identity | payer | unsupported => cases hresolved

/-- A seed of another name is resolved alike, and evaluated alike. -/
theorem evaluate_eq_of_ne {seed : PdaSeed} {resolved resolved' : ResolvedSeed}
    (hbinds : BindsOnly own free name bound) (hagrees : inputs.AgreesBut inputs' name free)
    (hname : ∀ type docs, seed ≠ .variable name type docs)
    (hown : resolver.resolveSeed place own seed = .ok resolved)
    (hfree : resolver.resolveSeed place free seed = .ok resolved') :
    resolved.seed.evaluate inputs = resolved'.seed.evaluate inputs' := by
  cases seed with
  | constant type value =>
    -- Bindings do not matter to a constant.
    obtain rfl := Except.ok.inj (hown.symm.trans hfree)
    obtain ⟨seed, hseed, hresult⟩ := Resolved.bind_eq_ok_iff.mp hown
    obtain rfl := Except.ok.inj hresult
    refine Seed.evaluate_congr (not_needsCaller_of_constantSeed hseed) hagrees.program ?_
    intro account _
    rw [hagrees.accounts]
  | «variable» declared type docs =>
    have hne : declared ≠ name := by
      rintro rfl
      exact hname type docs rfl
    have hsame : resolver.resolveSeed place own (.variable declared type docs) =
        resolver.resolveSeed place free (.variable declared type docs) := by
      rw [resolveSeed, resolveSeed, hbinds.others declared hne]
    obtain rfl := Except.ok.inj ((hown.symm.trans hsame).trans hfree)
    refine Seed.evaluate_congr_of_values hagrees.program hagrees.accounts ?_
    intro referred encoding hseed
    by_cases hreferred : referred = name
    · -- Only an argument may be called like the seed that is left out.
      subst hreferred
      rcases exists_reference_of_resolveSeed hfree hseed with hargument | rfl
      · exact hagrees.argument declared hargument
      · exact absurd rfl hne
    · exact hagrees.values referred hreferred

/-- **One declared seed** has the same bytes as a literal and as a value, unless it is a flag of
several bytes. -/
theorem evaluate_eq_iff_of_resolveSeed {seed : PdaSeed} {resolved resolved' : ResolvedSeed}
    (hbinds : BindsOnly own free name bound) (hagrees : inputs.AgreesBut inputs' name free)
    (hvalue : inputs'.values name = some value) (hdenotes : bound.Denotes inputs value)
    (hown : resolver.resolveSeed place own seed = .ok resolved)
    (hfree : resolver.resolveSeed place free seed = .ok resolved')
    (hencodes : ∀ parameter, resolved'.parameter = some parameter → parameter.name = name →
      ∃ bytes, parameter.encoding.encode value name = .ok bytes) :
    resolved.seed.evaluate inputs = resolved'.seed.evaluate inputs' ↔
      ¬ ((∃ flag, bound = .boolean flag) ∧ resolver.IsWideFlag name seed) := by
  by_cases hname : ∃ type docs, seed = .variable name type docs
  · obtain ⟨type, docs, rfl⟩ := hname
    simp only [resolveSeed, hbinds.isBound] at hown
    simp only [resolveSeed, hbinds.isFree] at hfree
    obtain ⟨literal, hliteral, hresult⟩ := Resolved.bind_eq_ok_iff.mp hown
    obtain rfl := Except.ok.inj hresult
    obtain ⟨⟨encoding, targetType⟩, hencoding, hresult⟩ := Resolved.bind_eq_ok_iff.mp hfree
    obtain rfl := Except.ok.inj hresult
    obtain ⟨bytes, hbytes⟩ := hencodes _ rfl rfl
    have hcaller : (Seed.parameter name encoding).evaluate inputs' = .ok bytes := by
      simp only [Seed.evaluate, Seed.evaluateValue, hvalue]
      exact hbytes
    -- The literal has some bytes, which are those of the value unless a flag is narrowed.
    obtain ⟨part, hpart, hiff⟩ := exists_bytes_of_boundSeed hliteral hencoding hdenotes hbytes
    rw [hpart, hcaller, Except.ok.injEq, hiff]
    constructor
    · rintro h ⟨⟨flag, hflag⟩, -, format, target, hformat, hwide⟩
      obtain ⟨rfl, -⟩ := Prod.mk.inj (Except.ok.inj (hencoding.symm.trans hformat))
      rw [h flag format hflag rfl] at hwide
      cases hwide
    · rintro h flag format hflag rfl
      by_contra hsingle
      apply h
      exact ⟨⟨flag, hflag⟩, rfl, format, targetType, hencoding, Bool.not_eq_true _ ▸ hsingle⟩
  · -- A seed of another name is neither bound nor a flag of this name.
    have hname : ∀ type docs, seed ≠ .variable name type docs :=
      fun type docs heq => hname ⟨type, docs, heq⟩
    refine iff_of_true (evaluate_eq_of_ne hbinds hagrees hname hown hfree) ?_
    rintro ⟨-, hwide⟩
    cases seed with
    | constant type value => exact hwide
    | «variable» declared type docs =>
      obtain ⟨rfl, -⟩ := hwide
      exact hname type docs rfl

/-! ## The whole derivation -/

/-- The seed of the given name is bound to a flag, and some declared seed of this name is a flag of
several bytes. -/
def IsNarrowed (resolver : Resolver) (pda : Pda) (name : String) (bound : InputValue) : Prop :=
  (∃ flag, bound = .boolean flag) ∧ ∃ seed ∈ pda.seeds, resolver.IsWideFlag name seed

/-- All seeds are evaluated alike just if each of them is. -/
theorem map_evaluate_eq_iff {seeds : List PdaSeed} {resolved resolved' : List ResolvedSeed}
    (hbinds : BindsOnly own free name bound) (hagrees : inputs.AgreesBut inputs' name free)
    (hvalue : inputs'.values name = some value) (hdenotes : bound.Denotes inputs value)
    (hown : List.Forall₂ (fun seed one => resolver.resolveSeed place own seed = .ok one)
      seeds resolved)
    (hfree : List.Forall₂ (fun seed one => resolver.resolveSeed place free seed = .ok one)
      seeds resolved')
    (hencodes : ∀ parameter ∈ resolved'.filterMap (·.parameter), parameter.name = name →
      ∃ bytes, parameter.encoding.encode value name = .ok bytes) :
    (resolved.map (·.seed)).map (Seed.evaluate inputs) =
        (resolved'.map (·.seed)).map (Seed.evaluate inputs') ↔
      ¬ ((∃ flag, bound = .boolean flag) ∧ ∃ seed ∈ seeds, resolver.IsWideFlag name seed) := by
  -- Seeds of the other names are evaluated alike in any case, so each seed decides for itself.
  induction hown generalizing resolved' with
  | nil =>
    cases hfree
    exact iff_of_true rfl (by simp)
  | cons hhead _ ih =>
    cases hfree with
    | @cons _ one _ rest hhead' htail' =>
      have hone : ∀ parameter, one.parameter = some parameter → parameter.name = name →
          ∃ bytes, parameter.encoding.encode value name = .ok bytes := fun parameter hparameter =>
        hencodes parameter (List.mem_filterMap.mpr ⟨one, List.mem_cons_self, hparameter⟩)
      have hrest : ∀ parameter ∈ rest.filterMap (·.parameter), parameter.name = name →
          ∃ bytes, parameter.encoding.encode value name = .ok bytes := by
        intro parameter hparameter
        obtain ⟨other, hmem, hparameter⟩ := List.mem_filterMap.mp hparameter
        apply hencodes parameter
        exact List.mem_filterMap.mpr ⟨other, List.mem_cons_of_mem _ hmem, hparameter⟩
      have hiff := evaluate_eq_iff_of_resolveSeed hbinds hagrees hvalue hdenotes hhead hhead' hone
      rw [List.map_cons, List.map_cons, List.map_cons, List.map_cons, List.cons.injEq, hiff,
        ih htail' hrest, List.exists_mem_cons_iff, and_or_left, not_or]

/-- **A literal in place of a value.** Take a seed that is bound to a literal, or left to the caller
and then given the value of the literal. Both derivations have the same seeds and the same address,
or fail alike, unless the literal is a flag and the seed a flag of several bytes. Then they never
have the same seeds. -/
theorem literal_eq_value_iff {pda : Pda} {withLiteral withValue : Derivation}
    (hbinds : BindsOnly own free name bound) (hagrees : inputs.AgreesBut inputs' name free)
    (hvalue : inputs'.values name = some value) (hdenotes : bound.Denotes inputs value)
    (hown : resolver.resolveSeeds pda own = .ok withLiteral)
    (hfree : resolver.resolveSeeds pda free = .ok withValue)
    (hencodes : ∀ parameter ∈ withValue.parameters, parameter.name = name →
      ∃ bytes, parameter.encoding.encode value name = .ok bytes) :
    (¬ resolver.IsNarrowed pda name bound →
      withLiteral.seedBytes inputs = withValue.seedBytes inputs' ∧
        withLiteral.find inputs = withValue.find inputs') ∧
    ∀ parts, withValue.seedBytes inputs' = .ok parts →
      (withLiteral.seedBytes inputs = .ok parts ↔ ¬ resolver.IsNarrowed pda name bound) := by
  obtain ⟨resolved, hresolved, hresult⟩ := Resolved.bind_eq_ok_iff.mp hown
  obtain rfl := Except.ok.inj hresult
  obtain ⟨resolved', hresolved', hresult⟩ := Resolved.bind_eq_ok_iff.mp hfree
  obtain rfl := Except.ok.inj hresult
  have hiff := map_evaluate_eq_iff hbinds hagrees hvalue hdenotes
    (Resolved.mapM_eq_ok_iff.mp hresolved) (Resolved.mapM_eq_ok_iff.mp hresolved') hencodes
  refine ⟨fun hwide => ?_, fun parts hparts => ⟨fun h => ?_, fun hwide => ?_⟩⟩
  · have hseeds := hiff.mpr hwide
    exact ⟨Derivation.seedBytes_congr rfl hseeds,
      Derivation.find_congr rfl hagrees.program hseeds⟩
  · -- Seeds that are found are what the single seeds are evaluated to.
    apply hiff.mp
    obtain ⟨hevaluate, -⟩ := Derivation.seedBytes_eq_ok_iff.mp h
    obtain ⟨hevaluate', -⟩ := Derivation.seedBytes_eq_ok_iff.mp hparts
    exact (Derivation.map_evaluate_of_mapM hevaluate).trans
      (Derivation.map_evaluate_of_mapM hevaluate').symm
  · rw [← hparts]
    exact Derivation.seedBytes_congr rfl (hiff.mpr hwide)

/-- An address derived from a number of two bytes and from a flag of a given format. -/
def gate (format : Idl.NumberFormat) : Pda where
  name := "gate"
  docs := []
  seeds := [.variable "id" (.number ⟨.u16, .little⟩) [],
    .variable "open" (.boolean ⟨format, .little⟩) []]
  programId := none

/-- The number is 258 and the flag is set. -/
def gateValues : SeedInputs where
  program := zeroAddress
  accounts := fun _ => none
  values := fun name => if name = "id" then some (.unsigned 258) else
    if name = "open" then some (.bool true) else none

/-- How the address is derived from values. -/
def gateFree (format : Idl.NumberFormat) : Derivation where
  name := "gate"
  seeds := [.parameter "id" (.number .u16), .parameter "open" (.boolean format)]
  parameters := [⟨"id", "int", .number .u16⟩, ⟨"open", "bool", .boolean format⟩]
  isAutomatic := false

/-- A literal is bound to one of the seeds, and nothing to the others. -/
theorem bindsOnly_singleton (name : String) (bound : InputValue) :
    BindsOnly [⟨name, bound⟩] [] name bound where
  isBound := by simp [boundValue?]
  isFree := rfl
  others := by
    intro other hother
    simp [boundValue?, hother.symm]

/-- A number has both its bytes, whether it is a literal or a value. A flag is one byte in both
cases if this is its width. -/
theorem literal_eq_value_gate : ∃ withId withOpen,
    linkless.resolveSeeds (gate .u32) [⟨"id", .number (.int 258)⟩] = .ok withId ∧
    linkless.resolveSeeds (gate .u8) [⟨"open", .boolean true⟩] = .ok withOpen ∧
    withId.seedBytes gateValues = .ok [[2, 1], [1, 0, 0, 0]] ∧
    withOpen.seedBytes gateValues = .ok [[2, 1], [1]] := by
  have hagrees : ∀ name, gateValues.AgreesBut gateValues name [] := fun name =>
    ⟨rfl, rfl, fun _ _ => rfl, fun _ _ => rfl⟩
  have hid : linkless.resolveSeeds (gate .u32) [] = .ok (gateFree .u32) := rfl
  have hopen : linkless.resolveSeeds (gate .u8) [] = .ok (gateFree .u8) := rfl
  -- The number is no flag, and the flag has a width of one byte.
  refine ⟨_, _, rfl, rfl, ?_, ?_⟩
  · refine ((literal_eq_value_iff (bindsOnly_singleton "id" _) (hagrees "id") rfl (.number rfl) rfl
      hid ?_).2 _ rfl).mpr ?_
    · intro parameter hparameter hname
      rcases List.mem_pair.mp hparameter with rfl | rfl
      · exact ⟨_, rfl⟩
      · exact absurd hname (by decide)
    · rintro ⟨⟨flag, hflag⟩, -⟩
      cases hflag
  · refine ((literal_eq_value_iff (bindsOnly_singleton "open" _) (hagrees "open") rfl
      (.boolean true) rfl hopen ?_).2 _ rfl).mpr ?_
    · intro parameter hparameter hname
      rcases List.mem_pair.mp hparameter with rfl | rfl
      · exact absurd hname (by decide)
      · exact ⟨_, rfl⟩
    · rintro ⟨-, seed, hseed, hwide⟩
      rcases List.mem_pair.mp hseed with rfl | rfl
      · obtain ⟨hname, -⟩ := hwide
        exact absurd hname (by decide)
      · obtain ⟨-, format, targetType, hformat, hwide⟩ := hwide
        obtain rfl : Idl.NumberFormat.u8 = format :=
          SeedEncoding.boolean.inj (Prod.mk.inj (Except.ok.inj hformat)).1
        cases hwide

/-- A flag of four bytes has these as a value, but is one byte as a literal. -/
theorem literal_ne_value_gate : ∃ withLiteral withValue,
    linkless.resolveSeeds (gate .u32) [⟨"open", .boolean true⟩] = .ok withLiteral ∧
    linkless.resolveSeeds (gate .u32) [] = .ok withValue ∧
    withValue.seedBytes gateValues = .ok [[2, 1], [1, 0, 0, 0]] ∧
    withLiteral.seedBytes gateValues = .ok [[2, 1], [1]] :=
  ⟨_, _, rfl, rfl, rfl, rfl⟩

end Resolver

end DartClient
