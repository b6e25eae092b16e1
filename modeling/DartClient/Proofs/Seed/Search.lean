import DartClient.Proofs.Seed.Agreement

/-!
# The search for a bump seed

A derived address is searched for by counting a bump seed down from 255, until the hash of the
seeds is no point of the curve. The search would also end, without an address, at seeds that break
a limit. This never happens to the seeds of a derivation: they are checked beforehand, and the
check leaves room for just one more seed.

## Main definitions

* `Address.HasRoom`: seeds within the limits, with room for the bump seed.
* `ClientError.IsSeedLimit`: the errors that are about a limit on seeds.
* `Derivation.Fills`: byte strings that may stand for the seeds of a derivation.
* `Derivation.FailsAt`: why a seed at a position fails.

## Main results

* `Address.create?_eq_limit_iff_of_bump`: which seeds are rejected with every bump seed.
* `Address.find?_eq_some_iff`, `Address.find?_eq_none_iff`: what the search finds.
* `Derivation.seedBytes_eq_ok_iff`: the seeds of a derivation are those that have room.
* `Derivation.tooMany_or_failsAt_of_seedBytes`: how the seeds of a derivation fail.
* `Derivation.find_spec`: what a derivation finds, and how it fails.
-/

namespace DartClient

/-! ## Creating and finding addresses -/

namespace Address

variable {seeds : List (List UInt8)} {program address : Address} {bump : UInt8}

/-- The seeds are within the limits, and a bump seed fits behind them. -/
structure HasRoom (seeds : List (List UInt8)) : Prop where
  /-- There are fewer than the greatest number of seeds. -/
  count : seeds.length < maxSeeds
  /-- No seed is too long. -/
  length : ∀ seed ∈ seeds, seed.length ≤ maxSeedLength

/-- The only seeds that are rejected for a limit are too many or too long ones. -/
theorem create?_eq_limit_iff : create? seeds program = .error .limit ↔
    maxSeeds < seeds.length ∨ ∃ seed ∈ seeds, maxSeedLength < seed.length := by
  unfold create?
  split
  case isTrue h => exact iff_of_true rfl h
  case isFalse h =>
    refine iff_of_false ?_ h
    simp only
    split <;> simp

/-- Seeds with a bump seed behind them break a limit just if they had no room for it. -/
theorem create?_eq_limit_iff_of_bump :
    create? (seeds ++ [[bump]]) program = .error .limit ↔ ¬ HasRoom seeds := by
  rw [create?_eq_limit_iff]
  constructor
  · rintro h ⟨hcount, hlength⟩
    rcases h with hmany | ⟨seed, hseed, hlong⟩
    · rw [List.length_append, List.length_singleton] at hmany
      omega
    · rcases List.mem_append.mp hseed with hseed | hseed
      · exact absurd (hlength seed hseed) (Nat.not_le.mpr hlong)
      · -- The bump seed is a single byte.
        obtain rfl := List.mem_singleton.mp hseed
        exact absurd hlong (by simp [maxSeedLength])
  · intro hroom
    by_contra hlimit
    obtain ⟨hcount, hlength⟩ := not_or.mp hlimit
    rw [List.length_append, List.length_singleton] at hcount
    refine hroom ⟨by omega, fun seed hseed => Nat.not_lt.mp fun hlong => ?_⟩
    exact hlength ⟨seed, List.mem_append_left _ hseed, hlong⟩

/-- With room for a bump seed, the hash decides. -/
theorem HasRoom.create?_cases (h : HasRoom seeds) (bump : UInt8) (program : Address) :
    (∃ address, create? (seeds ++ [[bump]]) program = .ok address) ∨
      create? (seeds ++ [[bump]]) program = .error .onCurve := by
  cases hcreate : create? (seeds ++ [[bump]]) program with
  | ok address => exact .inl ⟨address, rfl⟩
  | error fault =>
    cases fault with
    | limit => exact absurd h (create?_eq_limit_iff_of_bump.mp hcreate)
    | onCurve => exact .inr rfl

theorem toNat_ofNat_succ {n : Nat} (hn : n + 1 < 256) : (UInt8.ofNat (n + 1)).toNat = n + 1 := by
  rw [UInt8.toNat_ofNat']
  exact Nat.mod_eq_of_lt hn

/-- A byte up to `n + 1` is the next one of the search or one of the later ones. -/
theorem eq_or_le_of_le_succ {n : Nat} (hn : n + 1 < 256) {other : UInt8}
    (h : other.toNat ≤ n + 1) : other = UInt8.ofNat (n + 1) ∨ other.toNat ≤ n := by
  rcases Nat.le_succ_iff.mp h with hle | heq
  · exact .inr hle
  · exact .inl (UInt8.toNat_inj.mp (heq.trans (toNat_ofNat_succ hn).symm))

/-- The search finds the greatest bump seed that does not give a point of the curve. -/
theorem findFrom?_eq_some_iff (hroom : HasRoom seeds) {n : Nat} (hn : n < 256) :
    findFrom? seeds program n = some (address, bump) ↔
      0 < bump.toNat ∧ bump.toNat ≤ n ∧ create? (seeds ++ [[bump]]) program = .ok address ∧
        ∀ other : UInt8, bump < other → other.toNat ≤ n →
          create? (seeds ++ [[other]]) program = .error .onCurve := by
  -- The search counts down from `n`, and so does the induction.
  induction n with
  | zero =>
    refine iff_of_false (by simp [findFrom?]) ?_
    rintro ⟨hpos, hle, -⟩
    omega
  | succ n ih =>
    have hnext := toNat_ofNat_succ hn
    rcases hroom.create?_cases (UInt8.ofNat (n + 1)) program with ⟨found, hfound⟩ | hcurve
    · -- The search ends here, so no greater bump seed is left.
      simp only [findFrom?, hfound, Option.some.injEq, Prod.mk.injEq]
      constructor
      · rintro ⟨rfl, rfl⟩
        refine ⟨by omega, by omega, hfound, fun other hlt hle => ?_⟩
        have hlt := UInt8.lt_iff_toNat_lt.mp hlt
        omega
      · rintro ⟨-, hle, hcreate, hgreater⟩
        rcases eq_or_le_of_le_succ hn hle with rfl | hle
        · exact ⟨Except.ok.inj (hfound.symm.trans hcreate), rfl⟩
        · have hlt : bump < UInt8.ofNat (n + 1) := UInt8.lt_iff_toNat_lt.mpr (by omega)
          rw [hgreater _ hlt (by omega)] at hfound
          cases hfound
    · -- A point of the curve: the search goes on with the smaller ones.
      simp only [findFrom?, hcurve]
      rw [ih (by omega)]
      constructor
      · rintro ⟨hpos, hle, hcreate, hgreater⟩
        refine ⟨hpos, by omega, hcreate, fun other hlt hother => ?_⟩
        rcases eq_or_le_of_le_succ hn hother with rfl | hother
        · exact hcurve
        · exact hgreater other hlt hother
      · rintro ⟨hpos, hle, hcreate, hgreater⟩
        refine ⟨hpos, ?_, hcreate, fun other hlt hother => hgreater other hlt (by omega)⟩
        rcases eq_or_le_of_le_succ hn hle with rfl | hle
        · rw [hcreate] at hcurve
          cases hcurve
        · exact hle

/-- The search finds nothing if every bump seed gives a point of the curve. -/
theorem findFrom?_eq_none_iff (hroom : HasRoom seeds) {n : Nat} (hn : n < 256) :
    findFrom? seeds program n = none ↔ ∀ other : UInt8, 0 < other.toNat → other.toNat ≤ n →
      create? (seeds ++ [[other]]) program = .error .onCurve := by
  induction n with
  | zero =>
    refine iff_of_true rfl fun other hpos hle => ?_
    omega
  | succ n ih =>
    have hnext := toNat_ofNat_succ hn
    rcases hroom.create?_cases (UInt8.ofNat (n + 1)) program with ⟨found, hfound⟩ | hcurve
    · -- The search has found something, and its bump seed gives no point of the curve.
      simp only [findFrom?, hfound]
      refine iff_of_false (by simp) fun h => ?_
      have hcurve := h (UInt8.ofNat (n + 1)) (by omega) (by omega)
      rw [hfound] at hcurve
      cases hcurve
    · simp only [findFrom?, hcurve]
      rw [ih (by omega)]
      constructor
      · intro h other hpos hle
        rcases eq_or_le_of_le_succ hn hle with rfl | hle
        · exact hcurve
        · exact h other hpos hle
      · exact fun h other hpos hle => h other hpos (by omega)

/-- **What the search finds**: the greatest bump seed but zero whose hash is no point of the
curve. -/
theorem find?_eq_some_iff (hroom : HasRoom seeds) :
    find? seeds program = some (address, bump) ↔
      0 < bump ∧ create? (seeds ++ [[bump]]) program = .ok address ∧
        ∀ other, bump < other → create? (seeds ++ [[other]]) program = .error .onCurve := by
  rw [find?, findFrom?_eq_some_iff hroom (by decide), UInt8.lt_iff_toNat_lt]
  have hle : ∀ byte : UInt8, byte.toNat ≤ 255 := fun byte => Nat.le_of_lt_succ byte.toNat_lt
  constructor
  · rintro ⟨hpos, -, hcreate, hgreater⟩
    exact ⟨hpos, hcreate, fun other hlt => hgreater other hlt (hle other)⟩
  · rintro ⟨hpos, hcreate, hgreater⟩
    exact ⟨hpos, hle bump, hcreate, fun other hlt _ => hgreater other hlt⟩

/-- **When the search finds nothing**: every bump seed but zero gives a point of the curve. -/
theorem find?_eq_none_iff (hroom : HasRoom seeds) :
    find? seeds program = none ↔
      ∀ bump, 0 < bump → create? (seeds ++ [[bump]]) program = .error .onCurve := by
  rw [find?, findFrom?_eq_none_iff hroom (by decide)]
  constructor
  · exact fun h bump hpos =>
      h bump (UInt8.lt_iff_toNat_lt.mp hpos) (Nat.le_of_lt_succ bump.toNat_lt)
  · exact fun h bump hpos _ => h bump (UInt8.lt_iff_toNat_lt.mpr hpos)

end Address

/-! ## The limits of a derivation -/

/-- The error says that there are too many seeds, or that a seed is too long. -/
inductive ClientError.IsSeedLimit : ClientError → Prop
  | count (count : Nat) : IsSeedLimit (.tooManySeeds count)
  | length (seed : String) (length : Nat) : IsSeedLimit (.seedTooLong seed length)

/-- How single seeds fail: no limit is checked, and no address is searched for. -/
inductive ClientError.IsSeedFault : ClientError → Prop
  | missing (seed : String) : IsSeedFault (.missingSeedInput seed)
  | wire (error : WireError) : IsSeedFault (.wire error)
  | mismatch (seed : String) (value : Value) (encoding : String) :
    IsSeedFault (.seedMismatch seed value encoding)

theorem isSeedFault_of_mapError {α : Type} {result : Except WireError α} {error : ClientError}
    (h : result.mapError .wire = .error error) : error.IsSeedFault := by
  cases result with
  | ok value => cases h
  | error fault =>
    obtain rfl := Except.error.inj h
    exact .wire fault

theorem SeedEncoding.isSeedFault_of_encode {encoding : SeedEncoding} {value : Value}
    {seed : String} {error : ClientError} (h : encoding.encode value seed = .error error) :
    error.IsSeedFault := by
  unfold encode at h
  split at h
  case h_1 | h_2 | h_3 => cases h
  case h_4 | h_5 | h_6 => exact isSeedFault_of_mapError h
  case h_7 =>
    obtain rfl := Except.error.inj h
    exact .mismatch seed value encoding.name

theorem Seed.isSeedFault_of_evaluate {seed : Seed} {inputs : SeedInputs} {error : ClientError}
    (h : seed.evaluate inputs = .error error) : error.IsSeedFault := by
  cases seed with
  | utf8 | bytes | programId => cases h
  | account name =>
    simp only [evaluate] at h
    split at h
    · cases h
    · obtain rfl := Except.error.inj h
      exact .missing name
  | argument name encoding | parameter name encoding =>
    simp only [evaluate, evaluateValue] at h
    split at h
    · exact encoding.isSeedFault_of_encode h
    · obtain rfl := Except.error.inj h
      exact .missing name

namespace Derivation

variable {derivation : Derivation} {inputs : SeedInputs} {seeds : List Seed}
  {parts : List (List UInt8)} {error : ClientError}

/-- The byte strings may stand for the seeds: one for each, and that of a seed is its bytes if it
can be evaluated. -/
def Fills (derivation : Derivation) (inputs : SeedInputs) (parts : List (List UInt8)) : Prop :=
  List.Forall₂ (fun seed part => ∀ bytes, seed.evaluate inputs = .ok bytes → part = bytes)
    derivation.seeds parts

theorem checkCount_eq_ok_iff :
    derivation.checkCount = .ok () ↔ derivation.seeds.length < maxSeeds := by
  unfold checkCount
  split
  case isTrue h => exact iff_of_false nofun (Nat.not_lt.mpr h)
  case isFalse h => exact iff_of_true rfl (Nat.not_le.mp h)

theorem checkLength_eq_ok_iff {position length : Nat} :
    derivation.checkLength position length = .ok () ↔ length ≤ maxSeedLength := by
  unfold checkLength
  split
  case isTrue h => exact iff_of_false nofun (Nat.not_le.mpr h)
  case isFalse h => exact iff_of_true rfl (Nat.not_lt.mp h)

theorem evaluateFrom_eq_ok_iff {position : Nat} :
    derivation.evaluateFrom inputs position seeds = .ok parts ↔
      List.Forall₂ (fun seed part => seed.evaluate inputs = .ok part) seeds parts ∧
        ∀ part ∈ parts, part.length ≤ maxSeedLength := by
  -- The position counts on along the seeds, and so it is general.
  induction seeds generalizing position parts with
  | nil =>
    rw [List.forall₂_nil_left_iff]
    constructor
    · intro h
      obtain rfl := Except.ok.inj h
      exact ⟨rfl, nofun⟩
    · rintro ⟨rfl, -⟩
      rfl
  | cons seed seeds ih =>
    constructor
    · intro h
      obtain ⟨bytes, hbytes, h⟩ := Resolved.bind_eq_ok_iff.mp h
      obtain ⟨⟨⟩, hlength, h⟩ := Resolved.bind_eq_ok_iff.mp h
      obtain ⟨rest, hrest, h⟩ := Resolved.bind_eq_ok_iff.mp h
      obtain rfl := Except.ok.inj h
      obtain ⟨hparts, hlengths⟩ := ih.mp hrest
      exact ⟨.cons hbytes hparts,
        List.forall_mem_cons.mpr ⟨checkLength_eq_ok_iff.mp hlength, hlengths⟩⟩
    · rintro ⟨hparts, hlengths⟩
      cases hparts with
      | cons hbytes hrest =>
        obtain ⟨hlength, hlengths⟩ := List.forall_mem_cons.mp hlengths
        have hlength : derivation.checkLength position _ = .ok () :=
          checkLength_eq_ok_iff.mpr hlength
        rw [evaluateFrom, hbytes]
        simp only [bind, Except.bind, hlength, ih.mpr ⟨hrest, hlengths⟩]
        rfl

/-- Seeds are evaluated one by one. -/
theorem evaluate_eq_ok_iff : derivation.evaluate inputs = .ok parts ↔
    List.Forall₂ (fun seed part => seed.evaluate inputs = .ok part) derivation.seeds parts :=
  Resolved.mapM_eq_ok_iff

/-- **The seeds of a derivation** are what its seeds are evaluated to, with room for a bump
seed. -/
theorem seedBytes_eq_ok_iff : derivation.seedBytes inputs = .ok parts ↔
    derivation.evaluate inputs = .ok parts ∧ Address.HasRoom parts := by
  rw [evaluate_eq_ok_iff]
  constructor
  · intro h
    obtain ⟨⟨⟩, hcount, h⟩ := Resolved.bind_eq_ok_iff.mp h
    obtain ⟨hparts, hlengths⟩ := evaluateFrom_eq_ok_iff.mp h
    refine ⟨hparts, ?_, hlengths⟩
    rw [← hparts.length_eq]
    exact checkCount_eq_ok_iff.mp hcount
  · rintro ⟨hparts, hcount, hlengths⟩
    have hcount := checkCount_eq_ok_iff.mpr (hparts.length_eq ▸ hcount)
    have hall : derivation.evaluateFrom inputs 0 derivation.seeds = .ok parts :=
      evaluateFrom_eq_ok_iff.mpr ⟨hparts, hlengths⟩
    simp only [seedBytes, bind, Except.bind, hcount, hall]

/-- How an error names the seed at a position. -/
def seedPlace (derivation : Derivation) (position : Nat) : String :=
  derivation.name ++ "[" ++ toString position ++ "]"

/-- Why the seed at a position fails: it cannot be evaluated, or it has too many bytes. -/
inductive FailsAt (derivation : Derivation) (inputs : SeedInputs) (position : Nat) (seed : Seed) :
    ClientError → Prop
  | fault {error : ClientError} (h : seed.evaluate inputs = .error error) :
      FailsAt derivation inputs position seed error
  | long {bytes : List UInt8} (hbytes : seed.evaluate inputs = .ok bytes)
      (hlong : maxSeedLength < bytes.length) :
      FailsAt derivation inputs position seed
        (.seedTooLong (derivation.seedPlace position) bytes.length)

/-- Seeds in a row fail because one of them does. -/
theorem exists_failsAt_of_evaluateFrom {position : Nat}
    (h : derivation.evaluateFrom inputs position seeds = .error error) : ∃ index seed,
      seeds[index]? = some seed ∧ derivation.FailsAt inputs (position + index) seed error := by
  induction seeds generalizing position with
  | nil => cases h
  | cons seed seeds ih =>
    cases hbytes : seed.evaluate inputs with
    | error fault =>
      -- A seed that cannot be evaluated ends the evaluation before its length is looked at.
      rw [evaluateFrom, hbytes] at h
      obtain rfl := Except.error.inj h
      exact ⟨0, seed, rfl, .fault hbytes⟩
    | ok bytes =>
      by_cases hlong : maxSeedLength < bytes.length
      · simp only [evaluateFrom, hbytes, checkLength, hlong, if_true, bind, Except.bind,
          Except.error.injEq] at h
        obtain rfl := h
        exact ⟨0, seed, rfl, .long hbytes hlong⟩
      · have hlength : derivation.checkLength position bytes.length = .ok () :=
          checkLength_eq_ok_iff.mpr (Nat.not_lt.mp hlong)
        simp only [evaluateFrom, hbytes, bind, Except.bind, hlength] at h
        split at h
        case h_1 fault hrest =>
          obtain rfl := Except.error.inj h
          obtain ⟨index, other, hother, hfails⟩ := ih hrest
          refine ⟨index + 1, other, hother, ?_⟩
          rwa [Nat.add_right_comm, Nat.add_assoc] at hfails
        case h_2 => cases h

/-- **How the seeds of a derivation fail**: they leave no room for a bump seed, or one of them
fails. -/
theorem tooMany_or_failsAt_of_seedBytes (h : derivation.seedBytes inputs = .error error) :
    (maxSeeds ≤ derivation.seeds.length ∧ error = .tooManySeeds derivation.seeds.length) ∨
      ∃ position seed, derivation.seeds[position]? = some seed ∧
        derivation.FailsAt inputs position seed error := by
  -- The number of seeds is checked first, when none of them has been evaluated.
  by_cases hcount : maxSeeds ≤ derivation.seeds.length
  · simp only [seedBytes, checkCount, hcount, if_true, bind, Except.bind,
      Except.error.injEq] at h
    exact .inl ⟨hcount, h.symm⟩
  · simp only [seedBytes, checkCount, hcount, if_false, bind, Except.bind] at h
    obtain ⟨position, seed, hseed, hfails⟩ := exists_failsAt_of_evaluateFrom h
    rw [Nat.zero_add] at hfails
    exact .inr ⟨position, seed, hseed, hfails⟩

/-- Seeds that are reported to break a limit have no room for a bump seed, whatever the bytes of
those are that cannot be evaluated. -/
theorem isSeedFault_or_isSeedLimit_of_seedBytes
    (h : derivation.seedBytes inputs = .error error) :
    error.IsSeedFault ∨ (error.IsSeedLimit ∧
      ∀ parts, derivation.Fills inputs parts → ¬ Address.HasRoom parts) := by
  rcases tooMany_or_failsAt_of_seedBytes h with ⟨hcount, rfl⟩ | ⟨position, seed, hseed, hfails⟩
  · refine .inr ⟨.count _, fun parts hfills hroom => ?_⟩
    exact absurd hroom.count (Nat.not_lt.mpr (hfills.length_eq ▸ hcount))
  · cases hfails with
    | fault hfault => exact .inl (Seed.isSeedFault_of_evaluate hfault)
    | long hbytes hlong =>
      refine .inr ⟨.length _ _, fun parts hfills hroom => ?_⟩
      obtain ⟨part, hpart, hown⟩ :=
        exists_of_forall₂_of_mem_left hfills (List.mem_of_getElem? hseed)
      obtain rfl := hown _ hbytes
      exact absurd (hroom.length part hpart) (Nat.not_le.mpr hlong)

/-! ## The address of a derivation -/

theorem find_eq_ok_iff {found : Address × UInt8} : derivation.find inputs = .ok found ↔
    ∃ parts, derivation.seedBytes inputs = .ok parts ∧
      Address.find? parts inputs.program = some found := by
  unfold find
  rw [Resolved.bind_eq_ok_iff]
  refine exists_congr fun parts => and_congr_right fun _ => ?_
  split
  case h_1 other hother => rw [hother, Except.ok.injEq, Option.some.injEq]
  case h_2 hnone => simp [hnone]

/-- Seeds that fail are not searched with. -/
theorem find_of_seedBytes_error (h : derivation.seedBytes inputs = .error error) :
    derivation.find inputs = .error error := by
  rw [find, h]
  rfl

theorem find_eq_noViableBump_iff {name : String} :
    derivation.find inputs = .error (.noViableBump name) ↔ name = derivation.name ∧
      ∃ parts, derivation.seedBytes inputs = .ok parts ∧
        Address.find? parts inputs.program = none := by
  cases hparts : derivation.seedBytes inputs with
  | error error =>
    rw [find_of_seedBytes_error hparts]
    refine iff_of_false (fun h => ?_) (by simp)
    obtain rfl := Except.error.inj h
    -- Seeds never fail for want of a bump seed.
    rcases isSeedFault_or_isSeedLimit_of_seedBytes hparts with h | ⟨h, -⟩ <;> cases h
  | ok parts =>
    simp only [find, hparts, bind, Except.bind, Except.ok.injEq, exists_eq_left']
    split
    case h_1 found hfound => simp [hfound]
    case h_2 hnone => simp [hnone, eq_comm]

/-- **The derived address, and how deriving it fails.** An address and a bump seed are found if and
only if the seeds with this bump seed give the address and all greater bump seeds give points of the
curve. No bump seed is found if and only if all of them but zero, which is never tried, give points
of the curve; a limit on seeds never ends the search. Seeds that are reported to break a limit are
rejected with every bump seed, whatever stands for the seeds that cannot be evaluated, and are not
searched with. -/
theorem find_spec (derivation : Derivation) (inputs : SeedInputs) :
    (∀ address bump, derivation.find inputs = .ok (address, bump) ↔
      ∃ parts, derivation.seedBytes inputs = .ok parts ∧ 0 < bump ∧
        Address.create? (parts ++ [[bump]]) inputs.program = .ok address ∧
        ∀ other, bump < other →
          Address.create? (parts ++ [[other]]) inputs.program = .error .onCurve) ∧
    (∀ name, derivation.find inputs = .error (.noViableBump name) ↔
      name = derivation.name ∧ ∃ parts, derivation.seedBytes inputs = .ok parts ∧
        ∀ bump, 0 < bump →
          Address.create? (parts ++ [[bump]]) inputs.program = .error .onCurve) ∧
    (∀ error, derivation.seedBytes inputs = .error error → error.IsSeedLimit →
      derivation.find inputs = .error error ∧
        ∀ parts, derivation.Fills inputs parts → ∀ bump program,
          Address.create? (parts ++ [[bump]]) program = .error .limit) := by
  -- Seeds that have passed the checks leave room, which is what rules out a limit in the search.
  have hroom : ∀ parts, derivation.seedBytes inputs = .ok parts → Address.HasRoom parts :=
    fun parts h => (seedBytes_eq_ok_iff.mp h).2
  refine ⟨fun address bump => ?_, fun name => ?_, fun error h hlimit => ?_⟩
  · rw [find_eq_ok_iff]
    refine exists_congr fun parts => and_congr_right fun h => ?_
    exact Address.find?_eq_some_iff (hroom parts h)
  · rw [find_eq_noViableBump_iff]
    refine and_congr_right fun _ => exists_congr fun parts => and_congr_right fun h => ?_
    exact Address.find?_eq_none_iff (hroom parts h)
  · refine ⟨find_of_seedBytes_error h, fun parts hfills bump program => ?_⟩
    rw [Address.create?_eq_limit_iff_of_bump]
    rcases isSeedFault_or_isSeedLimit_of_seedBytes h with hfault | ⟨-, hno⟩
    · cases hfault <;> cases hlimit
    · exact hno parts hfills

/-- An address derived from a single byte. -/
def ticket : Derivation := ⟨"ticket", [.bytes [7]], [], true⟩

/-- The hash of the byte with the bump seed 255 is a point of the curve, so the bump seed is 254. -/
theorem find_spec_ticket : ∃ address, ticket.find Resolver.zeroInputs = .ok (address, 254) ∧
    Address.create? [[7], [254]] Resolver.zeroAddress = .ok address ∧
    Address.create? [[7], [255]] Resolver.zeroAddress = .error .onCurve := by
  have hoff : Edwards25519.isPoint
      (Address.derivationHash [[7], [254]] Resolver.zeroAddress) = false := by decide +kernel
  have hon : Edwards25519.isPoint
      (Address.derivationHash [[7], [255]] Resolver.zeroAddress) = true := by decide +kernel
  have hcurve : Address.create? [[7], [255]] Resolver.zeroAddress = .error .onCurve := by
    simp [Address.create?, hon, maxSeeds, maxSeedLength]
  obtain ⟨address, haddress⟩ : ∃ address,
      Address.create? [[7], [254]] Resolver.zeroAddress = .ok address := by
    simp [Address.create?, hoff, maxSeeds, maxSeedLength]
  obtain ⟨hfound, -, -⟩ := find_spec ticket Resolver.zeroInputs
  refine ⟨address, (hfound address 254).mpr ⟨[[7]], rfl, by decide, haddress, ?_⟩, haddress,
    hcurve⟩
  intro other hother
  -- Only one byte is greater.
  obtain rfl : other = 255 := by
    have hlt := UInt8.lt_iff_toNat_lt.mp hother
    have hbound := other.toNat_lt
    refine UInt8.toNat_inj.mp ?_
    simp only [UInt8.toNat_ofNat] at hlt ⊢
    omega
  exact hcurve

end Derivation

end DartClient
