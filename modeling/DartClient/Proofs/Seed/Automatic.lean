import DartClient.Proofs.Seed.Search

/-!
# Addresses derived without the caller

A derivation is automatic when its address can be derived before the caller gives any value. The
flag is computed from what the seeds are bound to, while the seeds themselves come from another
match on the same bindings. The two agree: a binding that is accepted by the one and has no seed in
the other does not resolve. An automatic derivation reads the program and the accounts that its
seeds name, and nothing else of its inputs.

## Main definitions

* `Seed.NeedsCaller`: the seeds whose bytes come from values of the caller.
* `Derivation.Sees`: two inputs look the same to a derivation.
* `Derivation.Refuses`: the errors that are about missing accounts and about limits.

## Main results

* `Resolver.isAutomatic_iff`: the flag is set just if no seed needs the caller.
* `Derivation.map_evaluate_congr_of_sees`, `Derivation.refuses_of_seedBytes`: what seeds that do not
  need the caller evaluate to, and how this fails.
* `Resolver.isAutomatic_spec`: what an automatic derivation is.
-/

namespace DartClient

open Idl (TypeNode ValueNode InputValue SeedValue PdaSeed Pda)

/-! ## Seeds that need the caller -/

namespace Seed

variable {seed : Seed} {inputs inputs' : SeedInputs}

/-- The bytes of the seed come from a value that the caller gives. -/
inductive NeedsCaller : Seed → Prop
  | argument (name : String) (encoding : SeedEncoding) : NeedsCaller (.argument name encoding)
  | parameter (name : String) (encoding : SeedEncoding) : NeedsCaller (.parameter name encoding)

/-- Without a value, a seed that needs one is not evaluated. -/
theorem NeedsCaller.evaluate_ne_ok (h : seed.NeedsCaller) (hvalues : inputs.values = fun _ => none)
    (bytes : List UInt8) : seed.evaluate inputs ≠ .ok bytes := by
  cases h with
  | argument name encoding => simp [evaluate, evaluateValue, hvalues]
  | parameter name encoding => simp [evaluate, evaluateValue, hvalues]

/-- A seed that does not need the caller is the same for all values. -/
theorem evaluate_congr (h : ¬ seed.NeedsCaller) (hprogram : inputs.program = inputs'.program)
    (haccounts : ∀ name, seed = .account name → inputs.accounts name = inputs'.accounts name) :
    seed.evaluate inputs = seed.evaluate inputs' := by
  cases seed with
  | utf8 | bytes => rfl
  | programId => simp only [evaluate, hprogram]
  | account name => simp only [evaluate, haccounts name rfl]
  | argument name encoding => exact absurd (.argument name encoding) h
  | parameter name encoding => exact absurd (.parameter name encoding) h

/-- Only an account can be missing to a seed that does not need the caller. -/
theorem exists_account_of_evaluate_error (h : ¬ seed.NeedsCaller) {error : ClientError}
    (herror : seed.evaluate inputs = .error error) :
    ∃ name, seed = .account name ∧ inputs.accounts name = none ∧
      error = .missingSeedInput name := by
  cases seed with
  | utf8 | bytes | programId => cases herror
  | account name =>
    cases haccount : inputs.accounts name with
    | some address => simp [evaluate, haccount] at herror
    | none =>
      simp only [evaluate, haccount, Except.error.injEq] at herror
      exact ⟨name, rfl, haccount, herror.symm⟩
  | argument name encoding => exact absurd (.argument name encoding) h
  | parameter name encoding => exact absurd (.parameter name encoding) h

end Seed

/-! ## Derivations that do not need the caller -/

namespace Derivation

variable {derivation : Derivation} {inputs inputs' : SeedInputs}

/-- The inputs have the same program, and the same addresses for the accounts among the seeds. -/
structure Sees (derivation : Derivation) (inputs inputs' : SeedInputs) : Prop where
  /-- The program is the same. -/
  program : inputs.program = inputs'.program
  /-- The accounts among the seeds are the same. -/
  accounts : ∀ name, Seed.account name ∈ derivation.seeds →
    inputs.accounts name = inputs'.accounts name

/-- The error says that an account among the seeds is missing, or that there are too many seeds, or
that a seed is too long. -/
inductive Refuses (derivation : Derivation) (inputs : SeedInputs) : ClientError → Prop
  | missing {name : String} (hseed : .account name ∈ derivation.seeds)
      (hnone : inputs.accounts name = none) : Refuses derivation inputs (.missingSeedInput name)
  | count (h : maxSeeds ≤ derivation.seeds.length) :
      Refuses derivation inputs (.tooManySeeds derivation.seeds.length)
  | length {position : Nat} {seed : Seed} {bytes : List UInt8} (hseed : seed ∈ derivation.seeds)
      (hbytes : seed.evaluate inputs = .ok bytes) (hlong : maxSeedLength < bytes.length) :
      Refuses derivation inputs
        (.seedTooLong (derivation.name ++ "[" ++ toString position ++ "]") bytes.length)

/-- Seeds that do not need the caller have the same bytes for inputs that look the same. -/
theorem map_evaluate_congr_of_sees (hfree : ∀ seed ∈ derivation.seeds, ¬ seed.NeedsCaller)
    (hsees : derivation.Sees inputs inputs') :
    derivation.seeds.map (Seed.evaluate inputs) = derivation.seeds.map (Seed.evaluate inputs') := by
  refine List.map_congr_left fun seed hseed => ?_
  refine Seed.evaluate_congr (hfree seed hseed) hsees.program ?_
  rintro name rfl
  exact hsees.accounts name hseed

/-- **Seeds that do not need the caller fail** only for a missing account or for a limit. -/
theorem refuses_of_seedBytes (hfree : ∀ seed ∈ derivation.seeds, ¬ seed.NeedsCaller)
    {error : ClientError} (h : derivation.seedBytes inputs = .error error) :
    derivation.Refuses inputs error := by
  rcases tooMany_or_failsAt_of_seedBytes h with ⟨hcount, rfl⟩ | ⟨position, seed, hseed, hfails⟩
  · exact .count hcount
  · have hmem := List.mem_of_getElem? hseed
    cases hfails with
    | fault hfault =>
      obtain ⟨name, rfl, hnone, rfl⟩ :=
        Seed.exists_account_of_evaluate_error (hfree seed hmem) hfault
      exact .missing hmem hnone
    | long hbytes hlong => exact .length hmem hbytes hlong

end Derivation

/-! ## The flag -/

namespace Resolver

variable {resolver : Resolver} {bindings : List SeedValue}

/-- A literal value is a seed that does not need the caller. -/
theorem not_needsCaller_of_constantSeed {place : String} {value : ValueNode} {type : TypeNode}
    {seed : Seed} (h : constantSeed place value type = .ok seed) : ¬ seed.NeedsCaller := by
  rcases constantSeed_spec h with ⟨-, rfl⟩ | ⟨-, bytes, hbytes⟩
  · exact nofun
  · intro hneeds
    have hok := hbytes ⟨zeroAddress, fun _ => none, fun _ => none⟩
    exact hneeds.evaluate_ne_ok rfl bytes hok

/-- A binding that gives a seed uses nothing but accounts if the seed does not need the caller. The
predicate also accepts other addresses and conditions, but these give no seed. -/
theorem usesOnlyAccounts_iff_of_boundSeed {name : String} {type : TypeNode} {bound : InputValue}
    {seed : Seed} (h : resolver.boundSeed name type bound = .ok seed) :
    bound.usesOnlyAccounts = true ↔ ¬ seed.NeedsCaller := by
  cases bound with
  | account account =>
    obtain rfl := Except.ok.inj h
    exact iff_of_true rfl nofun
  | programId =>
    obtain rfl := Except.ok.inj h
    exact iff_of_true rfl nofun
  | argument argument =>
    obtain ⟨⟨encoding, targetType⟩, -, hresult⟩ := Resolved.bind_eq_ok_iff.mp h
    obtain rfl := Except.ok.inj hresult
    exact iff_of_false nofun (not_not_intro (.argument argument encoding))
  | number | string | boolean | bytes | publicKey =>
    exact iff_of_true rfl (not_needsCaller_of_constantSeed h)
  | pda | conditional | identity | payer | unsupported => cases h

/-- **One declared seed** is automatic just if it does not need the caller. -/
theorem isAutomatic_iff_of_resolveSeed {place : String} {seed : PdaSeed} {resolved : ResolvedSeed}
    (h : resolver.resolveSeed place bindings seed = .ok resolved) :
    resolved.isAutomatic = true ↔ ¬ resolved.seed.NeedsCaller := by
  cases seed with
  | constant type value =>
    obtain ⟨seed, hseed, hresult⟩ := Resolved.bind_eq_ok_iff.mp h
    obtain rfl := Except.ok.inj hresult
    exact iff_of_true rfl (not_needsCaller_of_constantSeed hseed)
  | «variable» name type docs =>
    simp only [resolveSeed] at h
    cases hbound : boundValue? bindings name with
    | none =>
      rw [hbound] at h
      obtain ⟨⟨encoding, targetType⟩, -, hresult⟩ := Resolved.bind_eq_ok_iff.mp h
      obtain rfl := Except.ok.inj hresult
      exact iff_of_false Bool.false_ne_true (not_not_intro (.parameter name encoding))
    | some bound =>
      rw [hbound] at h
      obtain ⟨seed, hseed, hresult⟩ := Resolved.bind_eq_ok_iff.mp h
      obtain rfl := Except.ok.inj hresult
      exact usesOnlyAccounts_iff_of_boundSeed hseed

/-- All declared seeds are automatic just if none of them needs the caller. -/
theorem all_isAutomatic_iff {place : String} {seeds : List PdaSeed} {resolved : List ResolvedSeed}
    (h : List.Forall₂ (fun seed one => resolver.resolveSeed place bindings seed = .ok one)
      seeds resolved) :
    resolved.all (·.isAutomatic) = true ↔
      ∀ seed ∈ resolved.map (·.seed), ¬ seed.NeedsCaller := by
  induction h with
  | nil => exact iff_of_true rfl nofun
  | cons hhead _ ih =>
    simp only [List.all_cons, Bool.and_eq_true, List.map_cons, List.forall_mem_cons]
    exact and_congr (isAutomatic_iff_of_resolveSeed hhead) ih

/-- A derivation is automatic just if none of its seeds needs the caller. -/
theorem isAutomatic_iff {pda : Pda} {derivation : Derivation}
    (h : resolver.resolveSeeds pda bindings = .ok derivation) :
    derivation.isAutomatic = true ↔ ∀ seed ∈ derivation.seeds, ¬ seed.NeedsCaller := by
  obtain ⟨resolved, hseeds, rfl⟩ := resolveSeeds_eq_ok_iff.mp h
  exact all_isAutomatic_iff hseeds

/-- **What an automatic derivation is.** The flag is set if and only if no seed is an argument or a
parameter. Then inputs with the same program and the same accounts give the same seeds and the same
address, whatever their values are, and the seeds fail only for a missing account or for a limit
on seeds. -/
theorem isAutomatic_spec {pda : Pda} {derivation : Derivation}
    (h : resolver.resolveSeeds pda bindings = .ok derivation) :
    (derivation.isAutomatic = true ↔ ∀ seed ∈ derivation.seeds, ¬ seed.NeedsCaller) ∧
    (derivation.isAutomatic = true →
      (∀ inputs inputs', derivation.Sees inputs inputs' →
        derivation.seedBytes inputs = derivation.seedBytes inputs' ∧
          derivation.find inputs = derivation.find inputs') ∧
      ∀ inputs error, derivation.seedBytes inputs = .error error →
        derivation.Refuses inputs error) := by
  refine ⟨isAutomatic_iff h, fun hautomatic => ?_⟩
  have hfree := (isAutomatic_iff h).mp hautomatic
  constructor
  · intro inputs inputs' hsees
    have hseeds := Derivation.map_evaluate_congr_of_sees hfree hsees
    exact ⟨Derivation.seedBytes_congr rfl hseeds, Derivation.find_congr rfl hsees.program hseeds⟩
  · exact fun inputs error herror => Derivation.refuses_of_seedBytes hfree herror

/-- The address of a safe is derived from the program and an account, so no value matters to it; and
where that account is missing, this is what the error says. -/
theorem isAutomatic_spec_safe :
    (safeLinks none).resolveSeeds (safe none) safeBindings = .ok safeBound ∧
    safeBound.isAutomatic = true ∧
    safeBound.find zeroInputs = safeBound.find ⟨zeroAddress, zeroInputs.accounts, zeroOwner⟩ ∧
    safeBound.Refuses ⟨zeroAddress, fun _ => none, zeroOwner⟩ (.missingSeedInput "authority") := by
  have hresolved : (safeLinks none).resolveSeeds (safe none) safeBindings = .ok safeBound := rfl
  obtain ⟨-, hautomatic⟩ := isAutomatic_spec hresolved
  obtain ⟨hsame, hrefuses⟩ := hautomatic rfl
  exact ⟨hresolved, rfl, (hsame _ _ ⟨rfl, fun _ _ => rfl⟩).2, hrefuses _ _ rfl⟩

end Resolver

end DartClient
