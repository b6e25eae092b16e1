import DartClient.Client.Accounts
import DartClient.Page.Program
import DartClient.Proofs.Seed.Encodings

/-!
# Two derivations of one address

An address that a program declares is derived in two places: by a helper function, which takes the
values of the variable seeds as parameters, and by the builder of every instruction that has an
account defaulting to it, where the seeds are bound to accounts, literals and the program. Both
use one deriving program. They use one list of seeds unless

* another program derives the address and a constant seed is the address of the program: the
  builder takes it for the address of the own program, the helper for that of the deriving one;
* a seed whose type is a flag of several bytes is bound to a literal: the builder writes the
  literal as one byte.

## Main definitions

* `AddressTerm.value?`, `Derivation.evaluate`: what expressions for addresses and seeds stand for.
* `Idl.InputValue.Denotes`: the values that a parameter may be given for what a seed is bound to.
* `Resolver.Alike`: the declared seeds that are the same in both places.

## Main results

* `Resolver.exists_bytes_of_resolveSeed`: when one declared seed is the same in both places.
* `Resolver.exists_seeds_of_resolveSeeds`: when all of them are.
* `Resolver.helper_eq_builder_iff`: when the helper and the builder derive the same address.
-/

namespace DartClient

open Idl (TypeNode ValueNode InputValue SeedValue PdaSeed Pda PdaValue Program NumberFormat
  BytesValue InstructionAccount)
open Step (Writes)

/-! ## What expressions stand for -/

/-- The address that an expression stands for, given the addresses of the classes of programs and
the values of variables. -/
def AddressTerm.value? (programs : String → Option String) (values : String → Option Address) :
    AddressTerm → Option Address
  | .literal text => Address.parse? text
  | .programOf className => programs className >>= Address.parse?
  | .name identifier => values identifier

/-- The bytes that the expressions for the seeds stand for. -/
def Derivation.evaluate (derivation : Derivation) (inputs : SeedInputs) :
    Except ClientError (List (List UInt8)) :=
  derivation.seeds.mapM (Seed.evaluate inputs)

/-- The address that a seed is bound to, if it is bound to an address. -/
def Idl.InputValue.address? (inputs : SeedInputs) : InputValue → Option Address
  | .account name => inputs.accounts name
  | .programId => some inputs.program
  | .publicKey key => Address.parse? key
  | _ => none

/-- The value is what a seed is bound to, in a form that a parameter may have: an address may be
given as such or by its bytes, an integer with or without sign. -/
inductive Idl.InputValue.Denotes (inputs : SeedInputs) : InputValue → Value → Prop
  | address {bound : InputValue} {address : Address} (h : bound.address? inputs = some address) :
    Denotes inputs bound (.publicKey address)
  | addressBytes {bound : InputValue} {address : Address}
      (h : bound.address? inputs = some address) : Denotes inputs bound (.bytes address.bytes)
  | number {i : Int} {value : Value} (h : value.integer? = some i) :
    Denotes inputs (.number (.int i)) value
  | string (text : String) : Denotes inputs (.string text) (.string text)
  | boolean (flag : Bool) : Denotes inputs (.boolean flag) (.bool flag)
  | bytes {text : BytesValue} {place : String} {data : List UInt8}
      (h : text.decode place = .ok data) : Denotes inputs (.bytes text) (.bytes data)

/-! ## The bytes of values -/

/-- Whether the numbers of a format that are less than two have one byte. -/
def Idl.NumberFormat.isSingleByte : NumberFormat → Bool
  | .u8 | .i8 | .shortU16 => true
  | _ => false

/-- A flag is written as one byte by the formats of one byte. -/
theorem singleton_eq_iff_of_writes {format : NumberFormat} {flag : Bool} {bytes : List UInt8}
    (h : Writes (writeNumber format (.unsigned flag.toNat)) bytes) :
    [if flag then 1 else 0] = bytes ↔ format.isSingleByte = true := by
  cases format
  -- A format of several bytes writes more than one, whatever the flag.
  case u16 | u32 | u64 | u128 =>
    simp only [writeNumber, writes_unsigned_iff] at h
    obtain ⟨n, -, -, rfl⟩ := h
    refine iff_of_false (fun heq => ?_) (by decide)
    have hlength := congrArg List.length heq
    rw [length_littleEndian] at hlength
    cases hlength
  case i16 | i32 | i64 | i128 =>
    simp only [writeNumber, writes_signed_iff] at h
    obtain ⟨i, -, -, -, rfl⟩ := h
    refine iff_of_false (fun heq => ?_) (by decide)
    have hlength := congrArg List.length heq
    rw [length_littleEndian] at hlength
    cases hlength
  case f32 | f64 =>
    simp only [writeNumber, writes_float_iff] at h
    obtain ⟨x, hvalue, -⟩ := h
    cases hvalue
  case u8 =>
    simp only [writeNumber, writes_unsigned_iff] at h
    obtain ⟨n, hn, -, rfl⟩ := h
    obtain rfl := Option.some.inj hn
    cases flag <;> decide
  case i8 =>
    simp only [writeNumber, writes_signed_iff] at h
    obtain ⟨i, hi, -, -, rfl⟩ := h
    cases flag <;> obtain rfl := Option.some.inj hi <;> decide
  case shortU16 =>
    refine iff_of_true ?_ rfl
    have hshort : Writes (writeShort (.unsigned flag.toNat)) [if flag then 1 else 0] := by
      cases flag <;> simp [writeShort, Value.unsigned?, shortBytes]
    exact hshort.unique h

/-! ## One seed -/

/-- Whether a literal value is the address of the program. -/
def Idl.ValueNode.namesProgram : ValueNode → Bool
  | .programId => true
  | .constant _ value => value.namesProgram
  | _ => false

/-- A result to which something is applied succeeds if it does. -/
theorem map_eq_ok_iff {ε α β : Type} {result : Except ε α} {f : α → β} {b : β} :
    result.map f = .ok b ↔ ∃ a, result = .ok a ∧ f a = b := by
  cases result <;> simp [Except.map]

theorem readAddress_eq_ok_iff {text place : String} {address : Address} :
    Idl.readAddress text place = .ok address ↔ Address.parse? text = some address := by
  unfold Idl.readAddress
  split
  case h_1 hparse => rw [hparse, Except.ok.injEq, Option.some.injEq]
  case h_2 hparse => simp [hparse]

theorem isSome_of_readAddress {text place : String} {address : Address}
    (h : Idl.readAddress text place = .ok address) : (Address.parse? text).isSome := by
  rw [readAddress_eq_ok_iff.mp h]
  rfl

theorem Address.eq_of_bytes {address other : Address} (h : address.bytes = other.bytes) :
    address = other := by
  cases address
  cases other
  congr

/-- A literal value gives the address of the program or bytes that depend on nothing. -/
theorem constantSeed_spec {place : String} {value : ValueNode} {type : TypeNode} {seed : Seed}
    (h : constantSeed place value type = .ok seed) :
    (value.namesProgram = true ∧ seed = .programId) ∨
      (value.namesProgram = false ∧ ∃ bytes, ∀ inputs, seed.evaluate inputs = .ok bytes) := by
  fun_induction constantSeed place value type with
  | case1 text =>
    obtain rfl := Except.ok.inj h
    exact .inr ⟨rfl, _, fun _ => rfl⟩
  | case2 =>
    obtain rfl := Except.ok.inj h
    exact .inl ⟨rfl, rfl⟩
  | case3 | case4 | case5 | case7 =>
    obtain ⟨_, -, rfl⟩ := map_eq_ok_iff.mp h
    exact .inr ⟨rfl, _, fun _ => rfl⟩
  | case6 flag =>
    obtain rfl := Except.ok.inj h
    exact .inr ⟨rfl, _, fun _ => rfl⟩
  | case8 | case10 => cases h
  -- A constant with a type of its own is what its value is.
  | case9 type value _ ih => exact ih h

section Binding

variable {resolver : Resolver} {inputs : SeedInputs} {name : String} {type : TypeNode}
  {bound : InputValue} {value : Value} {seed : Seed} {bytes : List UInt8}

/-- A seed that is bound to an address is that address. -/
theorem Resolver.evaluate_of_address {address : Address}
    (haddress : bound.address? inputs = some address)
    (h : resolver.boundSeed name type bound = .ok seed) :
    seed.evaluate inputs = .ok address.bytes := by
  cases bound with
  | account account =>
    obtain rfl := Except.ok.inj h
    have haccount : inputs.accounts account = some address := haddress
    simp only [Seed.evaluate, haccount]
  | programId =>
    obtain rfl := Except.ok.inj h
    obtain rfl := Option.some.inj haddress
    rfl
  | publicKey key =>
    obtain ⟨read, hread, rfl⟩ := map_eq_ok_iff.mp h
    obtain rfl := Option.some.inj (haddress.symm.trans (readAddress_eq_ok_iff.mp hread))
    rfl
  | _ => cases haddress

theorem eq_number_of_plainNumber? {format : NumberFormat}
    (h : type.plainNumber? = some format) : type = .number ⟨format, .little⟩ := by
  unfold TypeNode.plainNumber? at h
  split at h <;> simp_all

/-- The encoding of a plain number type is that of the number. -/
theorem Resolver.encoding_of_plainNumber {format : NumberFormat} {encoding : SeedEncoding}
    {targetType : String} (htype : type.plainNumber? = some format)
    (h : resolver.seedEncoding type name = .ok (encoding, targetType)) :
    encoding = .number format := by
  obtain ⟨manifest, hmanifest, hof, -⟩ := seedEncoding_eq_ok_iff.mp h
  have hlays := lays_of_resolve hmanifest
  obtain rfl := eq_number_of_plainNumber? htype
  generalize manifest.codec = codec at hlays hof
  cases hlays
  cases hof
  rfl

/-- What the helper function makes of the value that a seed is bound to is what the builder makes
of the binding, except that the builder writes a flag as one byte. -/
theorem Resolver.exists_bytes_of_boundSeed {encoding : SeedEncoding} {targetType : String}
    (h : resolver.boundSeed name type bound = .ok seed)
    (hencoding : resolver.seedEncoding type name = .ok (encoding, targetType))
    (hdenotes : bound.Denotes inputs value) (hencode : encoding.encode value name = .ok bytes) :
    ∃ own, seed.evaluate inputs = .ok own ∧
      (own = bytes ↔ ∀ flag format, bound = .boolean flag → encoding = .boolean format →
        format.isSingleByte = true) := by
  have hencodes : encoding.Encodes value bytes := encodes_of_seedEncoding hencoding hencode
  cases hdenotes with
  | address haddress =>
    refine ⟨_, evaluate_of_address haddress h, iff_of_true (hencodes.eq_of_ownBytes? rfl).symm ?_⟩
    rintro flag format rfl
    cases haddress
  | addressBytes haddress =>
    refine ⟨_, evaluate_of_address haddress h, iff_of_true (hencodes.eq_of_ownBytes? rfl).symm ?_⟩
    rintro flag format rfl
    cases haddress
  | string text =>
    obtain rfl := Except.ok.inj h
    exact ⟨_, rfl, iff_of_true (hencodes.eq_of_ownBytes? rfl).symm nofun⟩
  | bytes hdata =>
    obtain ⟨own, hown, rfl⟩ := map_eq_ok_iff.mp h
    obtain rfl := decode_unique hdata hown
    exact ⟨_, rfl, iff_of_true (hencodes.eq_of_ownBytes? rfl).symm nofun⟩
  | @number i _ hvalue =>
    -- The builder wants a plain number type, which is also the encoding of the helper.
    have hseed : constantSeed name (.number (.int i)) type = .ok seed := h
    unfold constantSeed at hseed
    split at hseed
    case h_1 format hformat =>
      obtain ⟨own, hown, rfl⟩ := map_eq_ok_iff.mp hseed
      obtain rfl := encoding_of_plainNumber hformat hencoding
      cases hencodes with
      | number hwrites =>
        have hunique := (writes_of_numberBytes hvalue hown).unique hwrites
        exact ⟨own, rfl, iff_of_true hunique nofun⟩
    case h_2 => cases hseed
  | boolean flag =>
    obtain rfl := Except.ok.inj h
    refine ⟨_, rfl, ?_⟩
    cases hencodes with
    | boolean hwrites =>
      rw [singleton_eq_iff_of_writes hwrites]
      constructor
      · rintro hsingle _ _ _ hformat
        rw [← SeedEncoding.boolean.inj hformat]
        exact hsingle
      · intro h
        exact h flag _ rfl rfl
    | number h => exact absurd h (not_writes_number rfl nofun)

end Binding

namespace Resolver

variable {resolver : Resolver} {bindings : List SeedValue} {inputs : SeedInputs}
  {deriver : Address} {values : String → Option Value}

/-- The declared seed is the same for the program `own`, whose builder binds it, and for a helper
function that derives for the program `deriver`. -/
def Alike (resolver : Resolver) (bindings : List SeedValue) (own deriver : Address) :
    PdaSeed → Prop
  | .constant _ value => value.namesProgram = true → deriver = own
  | .variable name type _ => ∀ flag format targetType,
    boundValue? bindings name = some (.boolean flag) →
    resolver.seedEncoding type name = .ok (.boolean format, targetType) →
    format.isSingleByte = true

/-- A parameter is given a value that what its seed is bound to stands for, of a type that the
parameter takes. -/
def Supplies (bindings : List SeedValue) (inputs : SeedInputs) (values : String → Option Value)
    (parameter : SeedParameter) : Prop :=
  ∀ bound, boundValue? bindings parameter.name = some bound → ∃ value bytes,
    values parameter.name = some value ∧ bound.Denotes inputs value ∧
      parameter.encoding.encode value parameter.name = .ok bytes

/-- The address of the program is the only literal that is not the same for every program. -/
theorem exists_bytes_of_constantSeed (deriver : Address) {place : String} {value : ValueNode}
    {type : TypeNode} {seed : Seed} (h : constantSeed place value type = .ok seed) :
    ∃ ownBytes helperBytes, seed.evaluate inputs = .ok ownBytes ∧
      seed.evaluate ⟨deriver, inputs.accounts, values⟩ = .ok helperBytes ∧
      (ownBytes = helperBytes ↔ (value.namesProgram = true → deriver = inputs.program)) := by
  rcases constantSeed_spec h with ⟨hnames, rfl⟩ | ⟨hnames, bytes, hbytes⟩
  · refine ⟨inputs.program.bytes, deriver.bytes, rfl, rfl, ?_⟩
    simp only [hnames, forall_const]
    constructor
    · exact fun h => Address.eq_of_bytes h.symm
    · exact fun h => congrArg Address.bytes h.symm
  · refine ⟨bytes, bytes, hbytes _, hbytes _, iff_of_true rfl ?_⟩
    simp [hnames]

/-- **One declared seed**: it is evaluated in both places, and to the same bytes if it is alike. -/
theorem exists_bytes_of_resolveSeed (deriver : Address) {place : String} {seed : PdaSeed}
    {own helper : ResolvedSeed}
    (hown : resolver.resolveSeed place bindings seed = .ok own)
    (hautomatic : own.isAutomatic = true)
    (hhelper : resolver.resolveSeed place [] seed = .ok helper)
    (hvalues : ∀ parameter, helper.parameter = some parameter →
      Supplies bindings inputs values parameter) :
    ∃ ownBytes helperBytes, own.seed.evaluate inputs = .ok ownBytes ∧
      helper.seed.evaluate ⟨deriver, inputs.accounts, values⟩ = .ok helperBytes ∧
      (ownBytes = helperBytes ↔ resolver.Alike bindings inputs.program deriver seed) := by
  cases seed with
  | constant type value =>
    -- Bindings are of no account to a constant.
    obtain ⟨seed, hseed, hresult⟩ := Resolved.bind_eq_ok_iff.mp hown
    obtain rfl := Except.ok.inj hresult
    obtain ⟨seed', hseed', hresult'⟩ := Resolved.bind_eq_ok_iff.mp hhelper
    obtain rfl := Except.ok.inj hresult'
    obtain rfl := Except.ok.inj (hseed.symm.trans hseed')
    exact exists_bytes_of_constantSeed deriver hseed
  | «variable» name type docs =>
    obtain ⟨⟨encoding, targetType⟩, hencoding, hresult⟩ := Resolved.bind_eq_ok_iff.mp hhelper
    obtain rfl := Except.ok.inj hresult
    simp only [resolveSeed] at hown
    cases hbound : boundValue? bindings name with
    | none =>
      -- A seed that is not bound cannot be derived without the caller.
      rw [hbound] at hown
      obtain ⟨_, -, hresult⟩ := Resolved.bind_eq_ok_iff.mp hown
      obtain rfl := Except.ok.inj hresult
      cases hautomatic
    | some bound =>
      rw [hbound] at hown
      obtain ⟨seed, hseed, hresult⟩ := Resolved.bind_eq_ok_iff.mp hown
      obtain rfl := Except.ok.inj hresult
      obtain ⟨value, bytes, hvalue, hdenotes, hencode⟩ := hvalues _ rfl bound hbound
      obtain ⟨own, hevaluate, hiff⟩ :=
        exists_bytes_of_boundSeed hseed hencoding hdenotes hencode
      refine ⟨own, bytes, hevaluate, ?_, hiff.trans ?_⟩
      · simp only [Seed.evaluate, Seed.evaluateValue, hvalue]
        exact hencode
      · simp only [Alike, hbound, hencoding]
        constructor
        · rintro h flag format _ hflag hformat
          obtain ⟨rfl, -⟩ := Prod.mk.inj (Except.ok.inj hformat)
          exact h flag format (Option.some.inj hflag) rfl
        · rintro h flag format rfl rfl
          exact h flag format targetType rfl rfl

/-- **All declared seeds**: both lists are evaluated, and to the same bytes if all seeds are
alike. -/
theorem exists_seeds_of_forall₂ (deriver : Address) {place : String} {seeds : List PdaSeed}
    {own : List ResolvedSeed}
    (hown : List.Forall₂ (fun seed resolved =>
      resolver.resolveSeed place bindings seed = .ok resolved) seeds own)
    (hautomatic : ∀ resolved ∈ own, resolved.isAutomatic = true) :
    ∀ {helper : List ResolvedSeed}, List.Forall₂ (fun seed resolved =>
      resolver.resolveSeed place [] seed = .ok resolved) seeds helper →
    (∀ parameter ∈ helper.filterMap (·.parameter), Supplies bindings inputs values parameter) →
    ∃ ownBytes helperBytes, (own.map (·.seed)).mapM (Seed.evaluate inputs) = .ok ownBytes ∧
      (helper.map (·.seed)).mapM (Seed.evaluate ⟨deriver, inputs.accounts, values⟩) =
        .ok helperBytes ∧
      (ownBytes = helperBytes ↔
        ∀ seed ∈ seeds, resolver.Alike bindings inputs.program deriver seed) := by
  -- The two lists belong to the same declared seeds, so they are gone through side by side.
  induction hown with
  | nil =>
    intro helper hhelper _
    cases hhelper
    exact ⟨[], [], rfl, rfl, by simp⟩
  | @cons seed resolved seeds own hhead _ ih =>
    intro helper hhelper hvalues
    cases hhelper with
    | @cons _ other _ others hhead' htail' =>
      obtain ⟨hauto, hautos⟩ := List.forall_mem_cons.mp hautomatic
      have hbound : ∀ parameter, other.parameter = some parameter →
          Supplies bindings inputs values parameter := fun parameter hparameter =>
        hvalues parameter (List.mem_filterMap.mpr ⟨other, List.mem_cons_self, hparameter⟩)
      obtain ⟨b, b', hb, hb', hiff⟩ :=
        exists_bytes_of_resolveSeed deriver hhead hauto hhead' hbound
      obtain ⟨bs, bs', hbs, hbs', hiffs⟩ := ih hautos htail' fun parameter hparameter => by
        obtain ⟨resolved, hmem, hparameter⟩ := List.mem_filterMap.mp hparameter
        exact hvalues parameter
          (List.mem_filterMap.mpr ⟨resolved, List.mem_cons_of_mem _ hmem, hparameter⟩)
      refine ⟨b :: bs, b' :: bs', ?_, ?_, ?_⟩
      · rw [List.map_cons, List.mapM_cons, hb, hbs]
        rfl
      · rw [List.map_cons, List.mapM_cons, hb', hbs']
        rfl
      · rw [List.cons.injEq, hiff, hiffs, List.forall_mem_cons]

end Resolver

/-! ## The whole derivation -/

namespace Derivation

variable {derivation other : Derivation} {inputs inputs' : SeedInputs}

/-- The limits of seeds depend on their bytes and on the name of the address only. -/
theorem evaluateFrom_congr (hname : derivation.name = other.name) {seeds seeds' : List Seed}
    (h : seeds.map (Seed.evaluate inputs) = seeds'.map (Seed.evaluate inputs'))
    (position : Nat) :
    derivation.evaluateFrom inputs position seeds =
      other.evaluateFrom inputs' position seeds' := by
  -- The position only names a seed that is too long, so it is left general.
  induction seeds generalizing seeds' position with
  | nil =>
    obtain rfl := List.map_eq_nil_iff.mp h.symm
    rfl
  | cons seed seeds ih =>
    obtain ⟨seed', rest, rfl, hseed, hrest⟩ := List.map_eq_cons_iff.mp h.symm
    simp only [evaluateFrom, hseed, checkLength, hname, ih hrest.symm (position + 1)]

/-- Derivations of one name whose seeds are evaluated alike have the same seeds. -/
theorem seedBytes_congr (hname : derivation.name = other.name)
    (h : derivation.seeds.map (Seed.evaluate inputs) =
      other.seeds.map (Seed.evaluate inputs')) :
    derivation.seedBytes inputs = other.seedBytes inputs' := by
  have hlength : derivation.seeds.length = other.seeds.length := by
    simpa using congrArg List.length h
  have hcount : derivation.checkCount = other.checkCount := by
    rw [checkCount, checkCount, hlength]
  rw [seedBytes, seedBytes, hcount, evaluateFrom_congr hname h 0]

/-- They have the same address as well if they are those of one program. -/
theorem find_congr (hname : derivation.name = other.name)
    (hprogram : inputs.program = inputs'.program)
    (h : derivation.seeds.map (Seed.evaluate inputs) =
      other.seeds.map (Seed.evaluate inputs')) :
    derivation.find inputs = other.find inputs' := by
  rw [find, find, seedBytes_congr hname h, hname, hprogram]

theorem map_evaluate_of_mapM {seeds : List Seed} {bytes : List (List UInt8)}
    (h : seeds.mapM (Seed.evaluate inputs) = .ok bytes) :
    seeds.map (Seed.evaluate inputs) = bytes.map .ok := by
  rw [← List.forall₂_eq_eq_eq, List.forall₂_map_left_iff, List.forall₂_map_right_iff]
  exact Resolved.mapM_eq_ok_iff.mp h

end Derivation

namespace Resolver

variable {resolver : Resolver} {bindings : List SeedValue}

/-- The derivation of an address puts together what its seeds are resolved to. -/
theorem resolveSeeds_eq_ok_iff {pda : Pda} {derivation : Derivation} :
    resolver.resolveSeeds pda bindings = .ok derivation ↔ ∃ resolved,
      List.Forall₂ (fun seed one => resolver.resolveSeed pda.name bindings seed = .ok one)
        pda.seeds resolved ∧
      derivation = ⟨pda.name, resolved.map (·.seed), resolved.filterMap (·.parameter),
        resolved.all (·.isAutomatic)⟩ := by
  unfold resolveSeeds
  rw [Resolved.bind_eq_ok_iff]
  refine exists_congr fun resolved => and_congr Resolved.mapM_eq_ok_iff ?_
  exact ⟨fun h => (Except.ok.inj h).symm, fun h => congrArg Except.ok h.symm⟩

/-- What is done for an account that is declared to be derived: the text of another program is
read, whether the address can be derived or not. -/
theorem exists_of_derivedDefault {accounts : List InstructionAccount} {index : Nat}
    {name : String} {value : PdaValue} {default : AccountDefault}
    (h : resolver.derivedDefault accounts index name value = .ok default) :
    ∃ pda derivation, resolver.referredPda name value.pda = .ok pda ∧
      resolver.resolveSeeds pda value.seeds = .ok derivation ∧
      (∀ text, pda.programId = some text → (Address.parse? text).isSome) ∧
      default = if derivation.isAutomatic && isReachable accounts index derivation.seeds then
        .derived derivation pda.programId else .none := by
  obtain ⟨pda, hpda, h⟩ := Resolved.bind_eq_ok_iff.mp h
  obtain ⟨derivation, hderivation, h⟩ := Resolved.bind_eq_ok_iff.mp h
  obtain ⟨-, -, h⟩ := Resolved.bind_eq_ok_iff.mp h
  have hboth : (∀ text, pda.programId = some text → (Address.parse? text).isSome) ∧
      (if derivation.isAutomatic && isReachable accounts index derivation.seeds then
        (.ok (.derived derivation pda.programId) : Resolved AccountDefault) else .ok .none) =
          .ok default := by
    cases hprogram : pda.programId with
    | none =>
      rw [hprogram] at h
      exact ⟨nofun, h⟩
    | some text =>
      rw [hprogram] at h
      obtain ⟨_, haddress, h⟩ := Resolved.bind_eq_ok_iff.mp h
      refine ⟨?_, h⟩
      rintro _ ⟨⟩
      exact isSome_of_readAddress haddress
  obtain ⟨hprogram, hdefault⟩ := hboth
  refine ⟨pda, derivation, hpda, hderivation, hprogram, ?_⟩
  rw [← apply_ite Except.ok] at hdefault
  exact (Except.ok.inj hdefault).symm

/-- An account is filled in by a derived address if it is declared so, no seed needs the caller and
the accounts that the seeds name are known in time. -/
theorem exists_pda_of_accountDefault {settings : Settings} {accounts : List InstructionAccount}
    {index : Nat} {account : InstructionAccount} {derivation : Derivation}
    {override : Option String}
    (h : resolver.accountDefault settings accounts index account =
      .ok (.derived derivation override)) :
    ∃ value pda, account.defaultValue = some (.pda value) ∧
      resolver.referredPda account.name value.pda = .ok pda ∧
      resolver.resolveSeeds pda value.seeds = .ok derivation ∧ derivation.isAutomatic = true ∧
      isReachable accounts index derivation.seeds = true ∧ override = pda.programId := by
  unfold accountDefault at h
  split at h
  case h_1 value hvalue =>
    obtain ⟨pda, resolved, hpda, hresolved, -, hdefault⟩ := exists_of_derivedDefault h
    split at hdefault
    case isTrue hboth =>
      obtain ⟨rfl, rfl⟩ := AccountDefault.derived.inj hdefault
      obtain ⟨hautomatic, hreachable⟩ := Bool.and_eq_true_iff.mp hboth
      exact ⟨value, pda, hvalue, hpda, hresolved, hautomatic, hreachable, rfl⟩
    case isFalse => cases hdefault
  case h_2 =>
    obtain ⟨_, -, h⟩ := Resolved.bind_eq_ok_iff.mp h
    cases h
  case h_3 => cases h
  case h_4 =>
    have hundeclared := Except.ok.inj h
    unfold undeclaredDefault at hundeclared
    split at hundeclared
    · cases hundeclared
    · split at hundeclared <;> cases hundeclared

/-- A derived default has the seeds of the declared address, with bindings that need no caller, and
the deriving program that is declared. -/
theorem resolveSeeds_of_accountDefault {settings : Settings} {accounts : List InstructionAccount}
    {index : Nat} {account : InstructionAccount} {link : String} {pda : Pda}
    {derivation : Derivation} {override : Option String}
    (hpda : resolver.dictionary.pda? resolver.program link = some pda)
    (hdeclared : account.defaultValue = some (.pda ⟨.link link, bindings⟩))
    (h : resolver.accountDefault settings accounts index account =
      .ok (.derived derivation override)) :
    resolver.resolveSeeds pda bindings = .ok derivation ∧ derivation.isAutomatic = true ∧
      override = pda.programId := by
  obtain ⟨value, found, hvalue, hfound, hresolved, hautomatic, -, rfl⟩ :=
    exists_pda_of_accountDefault h
  obtain rfl : PdaValue.mk (.link link) bindings = value :=
    InputValue.pda.inj (Option.some.inj (hdeclared.symm.trans hvalue))
  simp only [referredPda, hpda] at hfound
  obtain rfl := Except.ok.inj hfound
  exact ⟨hresolved, hautomatic, rfl⟩

/-- The helper function has the seeds of the declared address without bindings. -/
theorem resolveSeeds_of_derivationHelper {program : Program} {pda : Pda}
    {helper : DerivationHelper} {diagnostics : List Diagnostic} {imports : ImportMap}
    (h : resolver.derivationHelper program pda = .ok (helper, diagnostics, imports)) :
    resolver.resolveSeeds pda [] = .ok helper.derivation ∧
      ∃ imports, derivingProgram program pda = .ok (helper.program, imports) := by
  obtain ⟨derivation, hderivation, h⟩ := Resolved.bind_eq_ok_iff.mp h
  obtain ⟨-, -, h⟩ := Resolved.bind_eq_ok_iff.mp h
  obtain ⟨manifests, -, h⟩ := Resolved.bind_eq_ok_iff.mp h
  obtain ⟨⟨term, programImports⟩, hterm, h⟩ := Resolved.bind_eq_ok_iff.mp h
  obtain ⟨rfl, -⟩ := Prod.mk.inj (Except.ok.inj h)
  exact ⟨hderivation, programImports, hterm⟩

/-- The deriving program is written in both places from the same declaration. -/
theorem exists_deriver {program : Program} {account : InstructionAccount} {pda : Pda}
    {derivation : Derivation} {term : AddressTerm} {imports : ImportMap}
    {programs : String → Option String} {names : String → Option Address} {own : Address}
    (hterm : derivingProgram program pda = .ok (term, imports))
    (hprogram : programs (programClass program.name) = some program.publicKey)
    (hown : Address.parse? program.publicKey = some own)
    (hresolved : names resolvedProgram = some own) :
    ∃ bound deriver,
      (BuilderAccount.mk account (.derived derivation pda.programId)).derivedLocal?.map
          (·.fallback) = some (.derived derivation bound) ∧
      bound.value? programs names = some deriver ∧
      term.value? programs names = some deriver := by
  unfold derivingProgram at hterm
  cases hoverride : pda.programId with
  | none =>
    rw [hoverride] at hterm
    obtain ⟨rfl, -⟩ := Prod.mk.inj (Except.ok.inj hterm)
    refine ⟨.name resolvedProgram, own, rfl, hresolved, ?_⟩
    simp only [AddressTerm.value?, hprogram]
    exact hown
  | some text =>
    rw [hoverride] at hterm
    obtain ⟨address, haddress, hresult⟩ := Resolved.bind_eq_ok_iff.mp hterm
    obtain ⟨rfl, -⟩ := Prod.mk.inj (Except.ok.inj hresult)
    have hparse := readAddress_eq_ok_iff.mp haddress
    exact ⟨.literal text, address, rfl, hparse, hparse⟩

/-- **When the helper and the builder derive the same address.** An account defaults to an address
that its program declares, and is filled in by the builder. Where every parameter of the helper is
given what its seed is bound to, both evaluate all seeds and derive for the same program. The seeds
are the same if and only if all declared seeds are alike; then they also pass the same limits. -/
theorem helper_eq_builder_iff {dictionary : Dictionary} {settings : Settings} {program : Program}
    {accounts : List InstructionAccount} {index : Nat} {account : InstructionAccount}
    {link : String} {pda : Pda} {derivation : Derivation} {override : Option String}
    {helper : DerivationHelper} {diagnostics : List Diagnostic} {imports : ImportMap}
    {programs : String → Option String} {names : String → Option Address}
    {inputs : SeedInputs} {values : String → Option Value}
    (hpda : dictionary.pda? program.name link = some pda)
    (hdeclared : account.defaultValue = some (.pda ⟨.link link, bindings⟩))
    (hdefault : (Resolver.mk dictionary program.name).accountDefault settings accounts index
      account = .ok (.derived derivation override))
    (hhelper : (Resolver.mk dictionary program.name).derivationHelper program pda =
      .ok (helper, diagnostics, imports))
    (hprogram : programs (programClass program.name) = some program.publicKey)
    (hown : Address.parse? program.publicKey = some inputs.program)
    (hresolved : names resolvedProgram = some inputs.program)
    (hvalues : ∀ parameter ∈ helper.derivation.parameters,
      Supplies bindings inputs values parameter) :
    ∃ term deriver ownBytes helperBytes,
      (BuilderAccount.mk account (.derived derivation override)).derivedLocal?.map (·.fallback) =
        some (.derived derivation term) ∧
      term.value? programs names = some deriver ∧
      helper.program.value? programs names = some deriver ∧
      derivation.evaluate inputs = .ok ownBytes ∧
      helper.derivation.evaluate ⟨deriver, inputs.accounts, values⟩ = .ok helperBytes ∧
      (ownBytes = helperBytes ↔ ∀ seed ∈ pda.seeds,
        (Resolver.mk dictionary program.name).Alike bindings inputs.program deriver seed) ∧
      (ownBytes = helperBytes → derivation.seedBytes inputs =
        helper.derivation.seedBytes ⟨deriver, inputs.accounts, values⟩) := by
  obtain ⟨hseeds, hautomatic, rfl⟩ := resolveSeeds_of_accountDefault hpda hdeclared hdefault
  obtain ⟨hseeds', imports, hterm⟩ := resolveSeeds_of_derivationHelper hhelper
  -- Both resolve the declared seeds, the builder with the bindings and the helper without.
  obtain ⟨own, hmapped, hresult⟩ := Resolved.bind_eq_ok_iff.mp hseeds
  obtain rfl := Except.ok.inj hresult
  obtain ⟨resolved, hmapped', hresult'⟩ := Resolved.bind_eq_ok_iff.mp hseeds'
  have hderivation := (Except.ok.inj hresult').symm
  obtain ⟨term, deriver, hlocal, hbuilder, hderiver⟩ :=
    exists_deriver hterm hprogram hown hresolved
  rw [hderivation] at hvalues
  obtain ⟨ownBytes, helperBytes, hownBytes, hhelperBytes, hiff⟩ :=
    exists_seeds_of_forall₂ deriver (Resolved.mapM_eq_ok_iff.mp hmapped)
      (List.all_eq_true.mp hautomatic) (Resolved.mapM_eq_ok_iff.mp hmapped') hvalues
  have hhelperBytes' :
      helper.derivation.evaluate ⟨deriver, inputs.accounts, values⟩ = .ok helperBytes := by
    rw [hderivation]
    exact hhelperBytes
  refine ⟨term, deriver, ownBytes, helperBytes, hlocal, hbuilder, hderiver, hownBytes,
    hhelperBytes', hiff, ?_⟩
  rintro rfl
  rw [hderivation]
  refine Derivation.seedBytes_congr rfl ?_
  exact (Derivation.map_evaluate_of_mapM hownBytes).trans
    (Derivation.map_evaluate_of_mapM hhelperBytes).symm

/-- The address whose bytes are zero. -/
def zeroAddress : Address := ⟨List.replicate 32 0, rfl⟩

/-- The address whose last byte is one and whose other bytes are zero. -/
def oneAddress : Address := ⟨List.replicate 31 0 ++ [1], rfl⟩

theorem parse?_zeroAddress :
    Address.parse? "11111111111111111111111111111111" = some zeroAddress := by
  decide +kernel

theorem parse?_oneAddress :
    Address.parse? "11111111111111111111111111111112" = some oneAddress := by
  decide +kernel

/-- An address derived from the program and an owner, by another program if one is given. -/
def safe (override : Option String) : Pda where
  name := "safe"
  docs := []
  seeds := [.constant .publicKey .programId, .variable "owner" .publicKey []]
  programId := override

/-- A program at the address zero that declares the derived address. -/
def safeProgram (override : Option String) : Program :=
  { Idl.Program.ofTypes "vault" [] with
    publicKey := "11111111111111111111111111111111"
    pdas := [safe override] }

/-- The links of that program. -/
def safeLinks (override : Option String) : Resolver := ⟨.ofPrograms [safeProgram override], "vault"⟩

/-- The bindings of the seeds: the owner is an account. -/
def safeBindings : List SeedValue := [⟨"owner", .account "authority"⟩]

/-- An account of an instruction. -/
def safeAccount (name : String) (default : Option InputValue) : InstructionAccount where
  name := name
  isWritable := false
  isSigner := .flag false
  isOptional := false
  docs := []
  defaultValue := default

/-- The accounts of an instruction, of which the second one defaults to the derived address. -/
def safeAccounts : List InstructionAccount :=
  [safeAccount "authority" none, safeAccount "safe" (some (.pda ⟨.link "safe", safeBindings⟩))]

/-- The program and all accounts are at the address zero. -/
def zeroInputs : SeedInputs := ⟨zeroAddress, fun _ => some zeroAddress, fun _ => none⟩

/-- The addresses of all programs are written as that of the program. -/
def zeroPrograms : String → Option String := fun _ => some "11111111111111111111111111111111"

/-- All names stand for the address zero. -/
def zeroNames : String → Option Address := fun _ => some zeroAddress

/-- The only parameter of the helper is the address of the owner. -/
def zeroOwner : String → Option Value := fun _ => some (.publicKey zeroAddress)

/-- How the builder derives the address. -/
def safeBound : Derivation := ⟨"safe", [.programId, .account "authority"], [], true⟩

/-- How the helper derives the address. -/
def safeFree : Derivation where
  name := "safe"
  seeds := [.programId, .parameter "owner" .publicKey]
  parameters := [⟨"owner", "Ed25519HDPublicKey", .publicKey⟩]
  isAutomatic := false

theorem supplies_zeroOwner {parameter : SeedParameter} (h : parameter ∈ safeFree.parameters) :
    Supplies safeBindings zeroInputs zeroOwner parameter := by
  obtain rfl := List.mem_singleton.mp h
  intro bound hbound
  obtain rfl := Option.some.inj (hbound.symm.trans rfl)
  exact ⟨_, _, rfl, .address rfl, rfl⟩

section Safe

variable {override : Option String}

theorem pda?_safeLinks :
    (safeLinks override).dictionary.pda? (safeProgram override).name "safe" =
      some (safe override) := by
  cbv

theorem accountDefault_safe (override : Option String)
    (hread : ∀ text, override = some text → Idl.readAddress text "safe" = .ok oneAddress) :
    (safeLinks override).accountDefault .default safeAccounts 1
      (safeAccount "safe" (some (.pda ⟨.link "safe", safeBindings⟩))) =
      .ok (.derived safeBound override) := by
  have hpda : (safeLinks override).referredPda "safe" (.link "safe") = .ok (safe override) := by
    have h : (safeLinks override).dictionary.pda? (safeLinks override).program "safe" =
      some (safe override) := pda?_safeLinks
    simp only [referredPda, h]
  simp only [accountDefault, safeAccount, derivedDefault, hpda]
  cases override with
  | none => rfl
  | some text =>
    show (do
      let _ ← Idl.readAddress text "safe"
      pure (AccountDefault.derived safeBound (some text))) = _
    rw [hread text rfl]
    rfl

theorem derivationHelper_safe (override : Option String)
    (hread : ∀ text, override = some text → Idl.readAddress text "safe" = .ok oneAddress) :
    ∃ helper diagnostics imports, (safeLinks override).derivationHelper (safeProgram override)
      (safe override) = .ok (helper, diagnostics, imports) ∧ helper.derivation = safeFree := by
  cases override with
  | none => exact ⟨_, _, _, rfl, rfl⟩
  | some text =>
    have hterm : derivingProgram (safeProgram (some text)) (safe (some text)) =
        .ok (.literal text, .empty) := by
      simp only [derivingProgram, safe, hread text rfl]
      rfl
    simp only [derivationHelper, hterm]
    exact ⟨_, _, _, rfl, rfl⟩

end Safe

/-- With no other program to derive it, the helper and the builder derive the same address. -/
theorem helper_eq_builder_safe : ∃ helper diagnostics imports bytes,
    (safeLinks none).derivationHelper (safeProgram none) (safe none) =
      .ok (helper, diagnostics, imports) ∧
    safeBound.evaluate zeroInputs = .ok bytes ∧
    helper.derivation.evaluate ⟨zeroAddress, zeroInputs.accounts, zeroOwner⟩ = .ok bytes := by
  obtain ⟨helper, diagnostics, imports, hhelper, hfree⟩ :=
    derivationHelper_safe none nofun
  have hprogram : zeroPrograms (programClass (safeProgram none).name) =
      some (safeProgram none).publicKey := rfl
  have hown : Address.parse? (safeProgram none).publicKey = some zeroInputs.program :=
    parse?_zeroAddress
  have hresolved : zeroNames resolvedProgram = some zeroInputs.program := rfl
  have hvalues : ∀ parameter ∈ helper.derivation.parameters,
      Supplies safeBindings zeroInputs zeroOwner parameter := by
    intro parameter hparameter
    rw [hfree] at hparameter
    exact supplies_zeroOwner hparameter
  obtain ⟨term, deriver, bytes, bytes', hlocal, hterm, -, hbound, hevaluate, hiff, -⟩ :=
    helper_eq_builder_iff pda?_safeLinks rfl (accountDefault_safe none nofun) hhelper hprogram hown
      hresolved hvalues
  -- The builder derives for the own program.
  obtain rfl : .name resolvedProgram = term :=
    (Fallback.derived.inj (Option.some.inj hlocal)).2
  obtain rfl := Option.some.inj hterm
  have halike : ∀ seed ∈ (safe none).seeds,
      (safeLinks none).Alike safeBindings zeroAddress zeroAddress seed := by
    intro seed hseed
    rcases List.mem_pair.mp hseed with rfl | rfl
    · exact fun _ => rfl
    · intro flag format targetType hflag
      cases hflag
  obtain rfl := hiff.mpr halike
  exact ⟨helper, diagnostics, imports, bytes, hhelper, hbound, hevaluate⟩

/-- With another program to derive it, a seed that is the address of the program is that of the own
program in the builder and that of the other one in the helper. -/
theorem helper_ne_builder_safe : ∃ override helper diagnostics imports,
    Address.parse? override = some oneAddress ∧
    (safeLinks (some override)).accountDefault .default safeAccounts 1
      (safeAccount "safe" (some (.pda ⟨.link "safe", safeBindings⟩))) =
      .ok (.derived safeBound (some override)) ∧
    (safeLinks (some override)).derivationHelper (safeProgram (some override))
      (safe (some override)) = .ok (helper, diagnostics, imports) ∧
    (∀ parameter ∈ helper.derivation.parameters,
      Supplies safeBindings zeroInputs zeroOwner parameter) ∧
    safeBound.evaluate zeroInputs = .ok [zeroAddress.bytes, zeroAddress.bytes] ∧
    helper.derivation.evaluate ⟨oneAddress, zeroInputs.accounts, zeroOwner⟩ =
      .ok [oneAddress.bytes, zeroAddress.bytes] ∧
    zeroAddress.bytes ≠ oneAddress.bytes := by
  let override := "11111111111111111111111111111112"
  have hread : ∀ text, some override = some text →
      Idl.readAddress text "safe" = .ok oneAddress := by
    intro text htext
    rw [← Option.some.inj htext]
    exact readAddress_eq_ok_iff.mpr parse?_oneAddress
  obtain ⟨helper, diagnostics, imports, hhelper, hfree⟩ := derivationHelper_safe _ hread
  refine ⟨override, helper, diagnostics, imports, parse?_oneAddress, accountDefault_safe _ hread,
    hhelper, ?_, rfl, ?_, by decide⟩
  · intro parameter hparameter
    exact supplies_zeroOwner (hfree ▸ hparameter)
  · rw [hfree]
    rfl

end Resolver

end DartClient
