import DartClient.Proofs.Seed.Automatic
import DartClient.Proofs.Text.Legible
import DartClient.Proofs.Text.Utf8

/-!
# Limits that are known beforehand

Some limits on the seeds of a derivation can be checked before it has any inputs: the number of the
seeds, and the length of those that are literals. This check refuses only derivations whose seeds
fail on all inputs. What it leaves to the evaluation is the length of the values of the caller:
addresses fit into a seed, so the seed that an error calls too long is an argument or a parameter.

The check and the evaluation walk over the seeds in different ways, as the check passes over seeds
that the evaluation fails at. So they are not compared step by step: the check says the same of all
seeds, and the evaluation fails at one of them.

## Main results

* `Derivation.checkLimits_eq_ok_iff`: what the check makes sure of.
* `Derivation.needsCaller_of_failsAt`: which seeds of a checked derivation can be too long.
* `Derivation.seedPlace_injective`: an error tells the position of the seed that it is about.
* `Derivation.checkLimits_spec`: what the check says about the evaluation.
-/

namespace DartClient

namespace Seed

variable {seed : Seed} {inputs : SeedInputs} {bytes : List UInt8}

/-- A seed whose length is known has bytes of this length, whatever the inputs are. -/
theorem exists_bytes_of_literalLength? {length : Nat} (h : seed.literalLength? = some length) :
    ∃ bytes : List UInt8, bytes.length = length ∧ ∀ inputs, seed.evaluate inputs = .ok bytes := by
  cases seed with
  | utf8 text =>
    obtain rfl := Option.some.inj h
    exact ⟨Text.Utf8.encode text, Text.Utf8.length_encode text, fun _ => rfl⟩
  | bytes data =>
    obtain rfl := Option.some.inj h
    exact ⟨data, rfl, fun _ => rfl⟩
  | programId | account | argument | parameter => cases h

/-- A seed that does not need the caller fits if its literal does, as addresses fit. -/
theorem length_le_of_evaluate (hfree : ¬ seed.NeedsCaller)
    (hliteral : ∀ length, seed.literalLength? = some length → length ≤ maxSeedLength)
    (h : seed.evaluate inputs = .ok bytes) : bytes.length ≤ maxSeedLength := by
  -- An address has exactly as many bytes as a seed may have.
  have haddress : ∀ address : Address, address.bytes.length ≤ maxSeedLength :=
    fun address => Nat.le_of_eq address.length_bytes
  cases seed with
  | utf8 text =>
    obtain rfl := Except.ok.inj h
    rw [Text.Utf8.length_encode]
    exact hliteral _ rfl
  | bytes data =>
    obtain rfl := Except.ok.inj h
    exact hliteral _ rfl
  | programId =>
    obtain rfl := Except.ok.inj h
    exact haddress inputs.program
  | account name =>
    simp only [evaluate] at h
    split at h
    · obtain rfl := Except.ok.inj h
      exact haddress _
    · cases h
  | argument name encoding => exact absurd (.argument name encoding) hfree
  | parameter name encoding => exact absurd (.parameter name encoding) hfree

end Seed

namespace Derivation

variable {derivation : Derivation} {inputs : SeedInputs} {seeds : List Seed} {error : ClientError}

/-! ## The check -/

theorem checkLiterals_eq_ok_iff {position : Nat} :
    derivation.checkLiterals position seeds = .ok () ↔
      ∀ seed ∈ seeds, ∀ length, seed.literalLength? = some length → length ≤ maxSeedLength := by
  induction seeds generalizing position with
  | nil => exact iff_of_true rfl nofun
  | cons seed seeds ih =>
    rw [List.forall_mem_cons, ← ih]
    cases hliteral : seed.literalLength? with
    | none =>
      -- The check passes over a seed of unknown length.
      simp only [checkLiterals, hliteral]
      exact ⟨fun h => ⟨nofun, h⟩, fun h => h.2⟩
    | some length =>
      simp only [checkLiterals, hliteral, Option.some.injEq, forall_eq']
      rw [← checkLength_eq_ok_iff, Resolved.bind_eq_ok_iff]
      constructor
      · rintro ⟨⟨⟩, hlength, hrest⟩
        exact ⟨hlength, hrest⟩
      · rintro ⟨hlength, hrest⟩
        exact ⟨(), hlength, hrest⟩

/-- **What the check makes sure of**: there is room for a bump seed, and no literal is too long. -/
theorem checkLimits_eq_ok_iff : derivation.checkLimits = .ok () ↔
    derivation.seeds.length < maxSeeds ∧ ∀ seed ∈ derivation.seeds, ∀ length,
      seed.literalLength? = some length → length ≤ maxSeedLength := by
  rw [checkLimits, Resolved.bind_eq_ok_iff, ← checkCount_eq_ok_iff, ← checkLiterals_eq_ok_iff]
  constructor
  · rintro ⟨⟨⟩, hcount, hliterals⟩
    exact ⟨hcount, hliterals⟩
  · rintro ⟨hcount, hliterals⟩
    exact ⟨(), hcount, hliterals⟩

/-- Seeds that can be evaluated pass the check. -/
theorem checkLimits_of_seedBytes {parts : List (List UInt8)}
    (h : derivation.seedBytes inputs = .ok parts) : derivation.checkLimits = .ok () := by
  obtain ⟨hparts, hroom⟩ := seedBytes_eq_ok_iff.mp h
  rw [evaluate_eq_ok_iff] at hparts
  rw [checkLimits_eq_ok_iff]
  refine ⟨hparts.length_eq ▸ hroom.count, fun seed hseed length hliteral => ?_⟩
  -- A literal is what it has been evaluated to, and that was not too long.
  obtain ⟨part, hpart, hown⟩ := exists_of_forall₂_of_mem_left hparts hseed
  obtain ⟨bytes, rfl, hbytes⟩ := Seed.exists_bytes_of_literalLength? hliteral
  obtain rfl := Except.ok.inj ((hbytes inputs).symm.trans hown)
  exact hroom.length bytes hpart

/-! ## The evaluation after the check -/

/-- An error tells the position of the seed that it is about. -/
theorem seedPlace_injective {position other : Nat}
    (h : derivation.seedPlace position = derivation.seedPlace other) : position = other := by
  apply Text.toString_injective
  unfold seedPlace at h
  simpa using h

/-- No single seed fails for the number of the seeds. -/
theorem FailsAt.ne_tooManySeeds {position : Nat} {seed : Seed}
    (h : derivation.FailsAt inputs position seed error) (count : Nat) :
    error ≠ .tooManySeeds count := by
  rintro rfl
  cases h with
  | fault hfault => cases Seed.isSeedFault_of_evaluate hfault

/-- **The seeds of a checked derivation that can be too long** are those that need the caller. The
error tells which one it is. -/
theorem needsCaller_of_failsAt (hcheck : derivation.checkLimits = .ok ()) {position : Nat}
    {seed : Seed} {place : String} {length : Nat} (hseed : derivation.seeds[position]? = some seed)
    (h : derivation.FailsAt inputs position seed (.seedTooLong place length)) :
    place = derivation.seedPlace position ∧ seed.NeedsCaller := by
  cases h with
  | fault hfault => cases Seed.isSeedFault_of_evaluate hfault
  | long hbytes hlong =>
    refine ⟨rfl, ?_⟩
    by_contra hfree
    obtain ⟨-, hliterals⟩ := checkLimits_eq_ok_iff.mp hcheck
    have hliteral := hliterals seed (List.mem_of_getElem? hseed)
    exact absurd (Seed.length_le_of_evaluate hfree hliteral hbytes) (Nat.not_le.mpr hlong)

/-- **What the check of the limits says about the evaluation.** Where it fails, the seeds fail on all
inputs. Where it succeeds, they never fail for being too many; and if they fail for a seed that is
too long, then the error tells the position of this seed, which is an argument or a parameter. -/
theorem checkLimits_spec (derivation : Derivation) :
    (∀ error, derivation.checkLimits = .error error →
      ∀ inputs, ∃ error, derivation.seedBytes inputs = .error error) ∧
    (derivation.checkLimits = .ok () →
      ∀ inputs error, derivation.seedBytes inputs = .error error →
        (∀ count, error ≠ .tooManySeeds count) ∧
        ∀ place length, error = .seedTooLong place length → ∃ position seed,
          (∀ other, place = derivation.seedPlace other ↔ other = position) ∧
          derivation.seeds[position]? = some seed ∧ seed.NeedsCaller) := by
  refine ⟨fun error hcheck inputs => ?_, fun hcheck inputs error hfail => ?_⟩
  · cases hparts : derivation.seedBytes inputs with
    | error error => exact ⟨error, rfl⟩
    | ok parts =>
      rw [checkLimits_of_seedBytes hparts] at hcheck
      cases hcheck
  · -- The number of seeds has been checked, so it is a single seed that fails.
    rcases tooMany_or_failsAt_of_seedBytes hfail with ⟨hcount, -⟩ | ⟨position, seed, hseed, hfails⟩
    · exact absurd (checkLimits_eq_ok_iff.mp hcheck).1 (Nat.not_lt.mpr hcount)
    · refine ⟨hfails.ne_tooManySeeds, ?_⟩
      rintro place length rfl
      obtain ⟨rfl, hneeds⟩ := needsCaller_of_failsAt hcheck hseed hfails
      refine ⟨position, seed, fun other => ⟨fun h => ?_, fun h => ?_⟩, hseed, hneeds⟩
      · exact seedPlace_injective h.symm
      · exact congrArg derivation.seedPlace h.symm

/-- An address derived from given seeds. -/
def memo (seeds : List Seed) : Derivation := ⟨"memo", seeds, [], false⟩

/-- A text of 33 bytes for every value. -/
def longMemo : SeedInputs where
  program := Resolver.zeroAddress
  accounts := fun _ => none
  values := fun _ => some (.string (String.ofList (List.replicate 33 'a')))

/-- A literal of 33 bytes fails on all inputs. A text of the caller behind the program passes the
check, but fails if it has 33 bytes, and this is reported of the second seed. -/
theorem checkLimits_spec_memo :
    (∀ inputs, ∃ error,
      (memo [.bytes (List.replicate 33 0)]).seedBytes inputs = .error error) ∧
    (memo [.programId, .parameter "text" .utf8]).seedBytes longMemo =
      .error (.seedTooLong "memo[1]" 33) ∧
    ∃ seed, (memo [.programId, .parameter "text" .utf8]).seeds[1]? = some seed ∧
      seed.NeedsCaller := by
  obtain ⟨hrefused, -⟩ := checkLimits_spec (memo [.bytes (List.replicate 33 0)])
  obtain ⟨-, hchecked⟩ := checkLimits_spec (memo [.programId, .parameter "text" .utf8])
  have hfail : (memo [.programId, .parameter "text" .utf8]).seedBytes longMemo =
      .error (.seedTooLong "memo[1]" 33) := rfl
  refine ⟨hrefused _ rfl, hfail, ?_⟩
  obtain ⟨position, seed, hplace, hseed, hneeds⟩ := (hchecked rfl longMemo _ hfail).2 _ _ rfl
  obtain rfl := (hplace 1).mp rfl
  exact ⟨seed, hseed, hneeds⟩

end Derivation

end DartClient
