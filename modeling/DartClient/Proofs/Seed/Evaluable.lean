import DartClient.Proofs.Seed.DeclaredSizes
import DartClient.Proofs.Seed.Limits
import DartClient.Proofs.Seed.Positions

/-!
# Derivations that can be evaluated

A derivation that was resolved and passes the check of its limits should have some inputs on which
its seeds can be evaluated. Each seed that needs a value has an encoding, and two kinds of encodings
take no value at all: the layout of a defined class, which is not at hand where the class is only
referred to, and a flag of a floating point format, as a flag is written as an integer. All other
encodings take some value that fits into a seed. So these two decide whether there are inputs.

The inputs are put together from one sample for each name, so they need the seeds of one name to
agree on their encoding. No more than this is asked of the names: an argument and a parameter of one
name may share a sample.

## Main definitions

* `SeedEncoding.IsEvaluable`, `SeedEncoding.sample`: the encodings that take a value, and a value.
* `Seed.value?`: the value that a seed needs.
* `Derivation.NamesAgree`: the seeds of one name have one encoding.
* `SeedInputs.ofEntries`: inputs with finitely many accounts and values.

## Main results

* `SeedEncoding.exists_encode_sample`: the sample is taken, and fits into a seed.
* `SeedEncoding.Encodes.isEvaluable`: nothing is taken by the other encodings.
* `Resolver.exists_seedBytes_iff`: which derivations can be evaluated.
-/

namespace DartClient

open Idl (TypeNode NumberFormat SeedValue Pda PdaSeed)
open Step (Writes)

/-! ## Encodings -/

namespace SeedEncoding

variable {encoding : SeedEncoding} {value : Value} {bytes : List UInt8}

/-- The encoding takes some value. -/
inductive IsEvaluable : SeedEncoding → Prop
  | utf8 : IsEvaluable .utf8
  | bytes : IsEvaluable .bytes
  | publicKey : IsEvaluable .publicKey
  | number (format : NumberFormat) : IsEvaluable (.number format)
  | boolean {format : NumberFormat} (h : format.isFloat = false) : IsEvaluable (.boolean format)

/-- A value that the encoding takes if it takes any. -/
def sample : SeedEncoding → Value
  | .utf8 => .string ""
  | .bytes => .bytes []
  | .publicKey => .publicKey Resolver.zeroAddress
  | .number format => if format.isFloat then .float ⟨0⟩ else .unsigned 0
  | .boolean _ | .layout _ => .bool false

/-- An encoding that takes a value is none of the two that do not. -/
theorem Encodes.isEvaluable (h : encoding.Encodes value bytes) : encoding.IsEvaluable := by
  cases h with
  | utf8 => exact .utf8
  | bytes => exact .bytes
  | publicKey => exact .publicKey
  | number => exact .number _
  | @boolean format flag _ hwrites =>
    apply IsEvaluable.boolean
    by_contra hfloat
    exact not_writes_floatSize (Bool.not_eq_false _ ▸ hfloat) hwrites

/-- Every format writes some number. -/
theorem exists_writes_sample (format : NumberFormat) :
    ∃ bytes, Writes (writeNumber format (sample (.number format))) bytes := by
  by_cases hfloat : format.isFloat = true
  · cases format
    case f32 | f64 =>
      apply Exists.intro
      rw [writeNumber, writes_float_iff]
      exact ⟨⟨0⟩, rfl, rfl, rfl⟩
    all_goals cases hfloat
  · have hsample : sample (.number format) = .unsigned 0 := if_neg hfloat
    rw [hsample]
    exact exists_writes_zero (Bool.not_eq_true _ ▸ hfloat)

/-- What is written as a number fits into a seed. -/
theorem length_le_of_writes_number {format : NumberFormat}
    (h : Writes (writeNumber format value) bytes) : bytes.length ≤ maxSeedLength := by
  have hwidth : format.maxWidth ≤ maxSeedLength := by cases format <;> decide
  exact Nat.le_trans ((Codec.Measures.number_maxWidth format).writes value bytes h) hwidth

/-- **The sample is taken, and fits into a seed.** -/
theorem exists_encode_sample (h : encoding.IsEvaluable) (place : String) : ∃ bytes,
    encoding.encode encoding.sample place = .ok bytes ∧ bytes.length ≤ maxSeedLength := by
  cases h with
  | utf8 | bytes => exact ⟨[], rfl, Nat.zero_le _⟩
  | publicKey => exact ⟨_, rfl, Nat.le_of_eq Resolver.zeroAddress.length_bytes⟩
  | number format =>
    obtain ⟨bytes, hbytes⟩ := exists_writes_sample format
    refine ⟨bytes, ?_, length_le_of_writes_number hbytes⟩
    exact mapError_eq_ok_iff.mpr (Codec.encode_eq_ok_iff.mpr hbytes)
  | @boolean format hfloat =>
    obtain ⟨bytes, hbytes⟩ := exists_writes_zero hfloat
    refine ⟨bytes, ?_, length_le_of_writes_number hbytes⟩
    have hflag : Writes ((Codec.boolean format).write (.bool false)) bytes :=
      writes_boolean_iff.mpr ⟨false, rfl, hbytes⟩
    exact mapError_eq_ok_iff.mpr (Codec.encode_eq_ok_iff.mpr hflag)

end SeedEncoding

/-! ## Seeds and their values -/

namespace Seed

variable {seed : Seed} {name : String} {encoding : SeedEncoding}

/-- The name of the value that a seed needs, and its encoding. -/
def value? : Seed → Option (String × SeedEncoding)
  | .argument name encoding | .parameter name encoding => some (name, encoding)
  | .utf8 _ | .bytes _ | .programId | .account _ => none

theorem evaluate_of_value? (h : seed.value? = some (name, encoding)) (inputs : SeedInputs) :
    seed.evaluate inputs = evaluateValue inputs name encoding := by
  cases seed with
  | argument | parameter =>
    obtain ⟨rfl, rfl⟩ := Prod.mk.inj (Option.some.inj h)
    rfl
  | _ => cases h

theorem not_needsCaller_of_value? (h : seed.value? = none) : ¬ seed.NeedsCaller := by
  intro hneeds
  cases hneeds <;> cases h

/-- Without a value, a seed fails only for want of its account. -/
theorem exists_evaluate_of_value? (h : seed.value? = none) {inputs : SeedInputs}
    (haccount : ∀ account, seed = .account account → inputs.accounts account ≠ none) :
    ∃ bytes, seed.evaluate inputs = .ok bytes := by
  cases hbytes : seed.evaluate inputs with
  | ok bytes => exact ⟨bytes, rfl⟩
  | error error =>
    obtain ⟨account, hseed, hnone, -⟩ :=
      exists_account_of_evaluate_error (not_needsCaller_of_value? h) hbytes
    exact absurd hnone (haccount account hseed)

end Seed

/-- Inputs that have finitely many accounts and values. -/
def SeedInputs.ofEntries (program : Address) (accounts : List (String × Address))
    (values : List (String × Value)) : SeedInputs where
  program := program
  accounts := fun name => accounts.lookup name
  values := fun name => values.lookup name

/-- An entry is found if all entries of its name are the same. -/
theorem lookup_eq_some_of_mem {α : Type} {entries : List (String × α)} {name : String} {a : α}
    (h : (name, a) ∈ entries) (hunique : ∀ other, (name, other) ∈ entries → other = a) :
    entries.lookup name = some a := by
  cases hlookup : entries.lookup name with
  | none =>
    have hne := List.lookup_eq_none_iff.mp hlookup (name, a) h
    exact absurd rfl (bne_iff_ne.mp hne)
  | some other =>
    obtain ⟨before, after, rfl, -⟩ := List.lookup_eq_some_iff.mp hlookup
    rw [hunique other (List.mem_append_right before List.mem_cons_self)]

/-! ## Samples for a derivation -/

namespace Derivation

variable {derivation : Derivation}

/-- Seeds that need a value of one name have one encoding. -/
def NamesAgree (derivation : Derivation) : Prop :=
  ∀ seed ∈ derivation.seeds, ∀ other ∈ derivation.seeds, ∀ name encoding encoding',
    seed.value? = some (name, encoding) → other.value? = some (name, encoding') →
      encoding = encoding'

/-- The encodings of all values take some value. -/
def IsEvaluable (derivation : Derivation) : Prop :=
  ∀ seed ∈ derivation.seeds, ∀ name encoding, seed.value? = some (name, encoding) →
    encoding.IsEvaluable

/-- Some address for each account among the seeds. -/
def sampleAccounts (derivation : Derivation) : List (String × Address) :=
  derivation.seeds.filterMap fun seed =>
    match seed with
    | .account name => some (name, Resolver.zeroAddress)
    | _ => none

/-- A sample for each value that the seeds need. -/
def sampleValues (derivation : Derivation) : List (String × Value) :=
  derivation.seeds.filterMap fun seed =>
    seed.value?.map fun (name, encoding) => (name, encoding.sample)

/-- The samples as inputs. -/
def sampleInputs (derivation : Derivation) (program : Address) : SeedInputs :=
  .ofEntries program derivation.sampleAccounts derivation.sampleValues

theorem lookup_sampleAccounts {name : String} (h : .account name ∈ derivation.seeds) :
    derivation.sampleAccounts.lookup name = some Resolver.zeroAddress := by
  apply lookup_eq_some_of_mem
  · exact List.mem_filterMap.mpr ⟨_, h, rfl⟩
  · intro other hother
    -- All accounts have the same address.
    obtain ⟨seed, -, hseed⟩ := List.mem_filterMap.mp hother
    split at hseed
    · exact (Prod.mk.inj (Option.some.inj hseed)).2.symm
    · cases hseed

theorem lookup_sampleValues (hagree : derivation.NamesAgree) {seed : Seed} {name : String}
    {encoding : SeedEncoding} (h : seed ∈ derivation.seeds)
    (hvalue : seed.value? = some (name, encoding)) :
    derivation.sampleValues.lookup name = some encoding.sample := by
  apply lookup_eq_some_of_mem
  · exact List.mem_filterMap.mpr ⟨seed, h, by rw [hvalue]; rfl⟩
  · intro sample hsample
    obtain ⟨other, hother, hentry⟩ := List.mem_filterMap.mp hsample
    obtain ⟨⟨_, encoding'⟩, hvalue', hpair⟩ := Option.map_eq_some_iff.mp hentry
    obtain ⟨rfl, rfl⟩ := Prod.mk.inj hpair
    rw [hagree seed h other hother _ _ _ hvalue hvalue']

/-- Every seed has bytes on the samples, and they fit. -/
theorem exists_evaluate_sample (hcheck : derivation.checkLimits = .ok ())
    (hagree : derivation.NamesAgree) (heval : derivation.IsEvaluable) (program : Address)
    {seed : Seed} (h : seed ∈ derivation.seeds) : ∃ bytes,
    seed.evaluate (derivation.sampleInputs program) = .ok bytes ∧
      bytes.length ≤ maxSeedLength := by
  cases hvalue : seed.value? with
  | none =>
    have haccount : ∀ account, seed = .account account →
        (derivation.sampleInputs program).accounts account ≠ none := by
      rintro account rfl
      exact Option.ne_none_iff_exists'.mpr ⟨_, lookup_sampleAccounts h⟩
    obtain ⟨bytes, hbytes⟩ := Seed.exists_evaluate_of_value? hvalue haccount
    refine ⟨bytes, hbytes, ?_⟩
    obtain ⟨-, hliterals⟩ := checkLimits_eq_ok_iff.mp hcheck
    exact Seed.length_le_of_evaluate (Seed.not_needsCaller_of_value? hvalue) (hliterals seed h)
      hbytes
  | some pair =>
    obtain ⟨name, encoding⟩ := pair
    obtain ⟨bytes, hbytes, hlength⟩ :=
      SeedEncoding.exists_encode_sample (heval seed h name encoding hvalue) name
    refine ⟨bytes, ?_, hlength⟩
    have hlookup : (derivation.sampleInputs program).values name = some encoding.sample :=
      lookup_sampleValues hagree h hvalue
    rw [Seed.evaluate_of_value? hvalue, Seed.evaluateValue, hlookup]
    exact hbytes

/-- **The samples are evaluated**, as there is nothing left that can fail. -/
theorem exists_seedBytes_sample (hcheck : derivation.checkLimits = .ok ())
    (hagree : derivation.NamesAgree) (heval : derivation.IsEvaluable) (program : Address) :
    ∃ parts, derivation.seedBytes (derivation.sampleInputs program) = .ok parts := by
  cases hparts : derivation.seedBytes (derivation.sampleInputs program) with
  | ok parts => exact ⟨parts, rfl⟩
  | error error =>
    exfalso
    rcases tooMany_or_failsAt_of_seedBytes hparts with ⟨hcount, -⟩ | ⟨_, seed, hseed, hfails⟩
    · exact absurd (checkLimits_eq_ok_iff.mp hcheck).1 (Nat.not_lt.mpr hcount)
    · obtain ⟨bytes, hbytes, hlength⟩ :=
        exists_evaluate_sample hcheck hagree heval program (List.mem_of_getElem? hseed)
      cases hfails with
      | fault hfault => cases hbytes.symm.trans hfault
      | long hlong hgreater =>
        obtain rfl := Except.ok.inj (hbytes.symm.trans hlong)
        exact absurd hlength (Nat.not_le.mpr hgreater)

end Derivation

/-! ## Derivations that were resolved -/

namespace Resolver

variable {resolver : Resolver} {bindings : List SeedValue} {pda : Pda} {derivation : Derivation}

/-- A seed that needs a value has the encoding of some type. -/
theorem exists_seedEncoding_of_gives {place : String} {declared : PdaSeed} {seed : Seed}
    (h : resolver.Gives place bindings declared seed) {name : String} {encoding : SeedEncoding}
    (hvalue : seed.value? = some (name, encoding)) : ∃ type declaredName targetType,
    resolver.seedEncoding type declaredName = .ok (encoding, targetType) := by
  cases h with
  | parameter _ hencoding | argument _ hencoding =>
    obtain ⟨rfl, rfl⟩ := Prod.mk.inj (Option.some.inj hvalue)
    exact ⟨_, _, _, hencoding⟩
  | account | programId | constantProgramId => cases hvalue
  | literal _ _ _ hliteral | constant _ _ hliteral => cases hliteral <;> cases hvalue

/-- Seeds that are evaluated have encodings that take some value. -/
theorem isEvaluable_of_seedBytes (h : resolver.resolveSeeds pda bindings = .ok derivation)
    {inputs : SeedInputs} {parts : List (List UInt8)}
    (hparts : derivation.seedBytes inputs = .ok parts) : derivation.IsEvaluable := by
  intro seed hseed name encoding hvalue
  obtain ⟨declared, -, hgives⟩ :=
    exists_of_forall₂_of_mem_right (forall₂_gives_of_resolveSeeds h) hseed
  obtain ⟨_, _, _, hencoding⟩ := exists_seedEncoding_of_gives hgives hvalue
  -- The seed has bytes, so its encoding has taken a value.
  obtain ⟨hevaluate, -⟩ := Derivation.seedBytes_eq_ok_iff.mp hparts
  obtain ⟨bytes, -, hbytes⟩ :=
    exists_of_forall₂_of_mem_left (Derivation.evaluate_eq_ok_iff.mp hevaluate) hseed
  rw [Seed.evaluate_of_value? hvalue, Seed.evaluateValue] at hbytes
  split at hbytes
  case h_1 value _ => exact (encodes_of_seedEncoding hencoding hbytes).isEvaluable
  case h_2 => cases hbytes

/-- **Which derivations can be evaluated.** Take a derivation that was resolved, passes the check of
its limits and has one encoding for each name. For every program there are accounts and values on
which its seeds can be evaluated if and only if no seed that needs a value is the layout of a
defined class or a flag of a floating point format. -/
theorem exists_seedBytes_iff (h : resolver.resolveSeeds pda bindings = .ok derivation)
    (hcheck : derivation.checkLimits = .ok ()) (hagree : derivation.NamesAgree)
    (program : Address) :
    (∃ accounts values parts,
      derivation.seedBytes (.ofEntries program accounts values) = .ok parts) ↔
      derivation.IsEvaluable := by
  constructor
  · rintro ⟨accounts, values, parts, hparts⟩
    exact isEvaluable_of_seedBytes h hparts
  · intro heval
    obtain ⟨parts, hparts⟩ := Derivation.exists_seedBytes_sample hcheck hagree heval program
    exact ⟨_, _, parts, hparts⟩

/-- An address derived from an account, a text and a flag. -/
def ledger : Pda where
  name := "ledger"
  docs := []
  seeds := [.variable "owner" .publicKey [], .variable "title" (.string .utf8) [],
    .variable "open" (.boolean ⟨.shortU16, .little⟩) []]
  programId := none

/-- The owner is an account of the instruction; the other values are left to the caller. -/
def ledgerDerivation : Derivation where
  name := "ledger"
  seeds := [.account "holder", .parameter "title" .utf8, .parameter "open" (.boolean .shortU16)]
  parameters := [⟨"title", "String", .utf8⟩, ⟨"open", "bool", .boolean .shortU16⟩]
  isAutomatic := false

/-- A ledger can be evaluated for every program. -/
theorem exists_seedBytes_ledger :
    linkless.resolveSeeds ledger [⟨"owner", .account "holder"⟩] = .ok ledgerDerivation ∧
    ∃ accounts values parts,
      ledgerDerivation.seedBytes (.ofEntries zeroAddress accounts values) = .ok parts := by
  have hresolved : linkless.resolveSeeds ledger [⟨"owner", .account "holder"⟩] =
      .ok ledgerDerivation := rfl
  have hagree : ledgerDerivation.NamesAgree := by
    simp [Derivation.NamesAgree, ledgerDerivation, Seed.value?]
  refine ⟨hresolved, (exists_seedBytes_iff hresolved rfl hagree zeroAddress).mpr ?_⟩
  have hflag : (SeedEncoding.boolean .shortU16).IsEvaluable := .boolean rfl
  simp [Derivation.IsEvaluable, ledgerDerivation, Seed.value?, SeedEncoding.IsEvaluable.utf8, hflag]

/-- Links inside a program that declares points with a coordinate. -/
def points : Resolver where
  dictionary := .ofPrograms
    [.ofTypes "atlas" [⟨"point", .struct [⟨"x", .number ⟨.u8, .little⟩, [], none⟩], []⟩]]
  program := "atlas"

/-- An address derived from a point. -/
def mark : Pda where
  name := "mark"
  docs := []
  seeds := [.variable "point" (.link "point" none) []]
  programId := none

/-- No inputs give the seeds of an address that is derived from a point. -/
theorem not_exists_seedBytes_mark : ∃ derivation,
    points.resolveSeeds mark [] = .ok derivation ∧ derivation.checkLimits = .ok () ∧
    derivation.NamesAgree ∧ ∀ inputs parts, derivation.seedBytes inputs ≠ .ok parts := by
  obtain ⟨derivation, hresolved, hcheck, hseeds⟩ : ∃ derivation,
      points.resolveSeeds mark [] = .ok derivation ∧ derivation.checkLimits = .ok () ∧
      derivation.seeds = [.parameter "point" (.layout (.defined "Point" .struct))] :=
    ⟨_, rfl, rfl, rfl⟩
  refine ⟨derivation, hresolved, hcheck, ?_, fun inputs parts hparts => ?_⟩
  · simp [Derivation.NamesAgree, hseeds, Seed.value?]
  · have heval := isEvaluable_of_seedBytes hresolved hparts
    rw [Derivation.IsEvaluable, hseeds] at heval
    cases heval _ List.mem_cons_self _ _ rfl

end Resolver

end DartClient
