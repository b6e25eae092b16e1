import DartClient.Client.Accounts
import DartClient.Proofs.Dictionary.Recording
import DartClient.Proofs.Manifest.Links

/-!
# Resolving in a growing dictionary

Types, seeds and accounts look at the dictionary only where a link is followed. If they are
resolved, every link on their way has led somewhere. It leads to the same in a larger dictionary, so
what was resolved stays as it is when programs are added: only a failure can turn into something
else.

## Main definitions

* `Resolved.Kept`: a step that succeeds with the same result if another one does.
* `Resolver.GrowsTo`: everything that links find with one resolver they find with another one.
* `Dictionary.Keeps`: everything that is found and resolved with one dictionary is found and
  resolved alike with another one.

## Main results

* `Resolver.GrowsTo.resolve`: a type that is resolved is resolved alike after links have been added.
* `Dictionary.keeps_of_le`: a larger dictionary keeps what is found and resolved.
* `Dictionary.append_only`: what programs that are added keep, and when they and their order play no
  part.
-/

namespace DartClient

open Idl (Program DefinedType Pda TypeNode SeedValue PdaSeed PdaReference PdaValue InputValue
  Instruction InstructionAccount)

/-! ## Steps that are kept -/

/-- If the first step succeeds, the second one succeeds with the same result. -/
def Resolved.Kept {α : Type} (step step' : Resolved α) : Prop := ∀ a, step = .ok a → step' = .ok a

namespace Resolved

variable {α β : Type}

theorem Kept.refl (step : Resolved α) : Kept step step := fun _ h => h

theorem kept_error (error : ClientError) (step : Resolved α) : Kept (.error error) step := nofun

theorem Kept.bind {step step' : Resolved α} {next next' : α → Resolved β} (h : Kept step step')
    (hnext : ∀ a, Kept (next a) (next' a)) : Kept (step >>= next) (step' >>= next') := by
  intro b hb
  obtain ⟨a, ha, hb⟩ := bind_eq_ok_iff.mp hb
  exact bind_eq_ok_iff.mpr ⟨a, h a ha, hnext a b hb⟩

theorem Kept.mapM {step step' : α → Resolved β} (h : ∀ a, Kept (step a) (step' a))
    (items : List α) : Kept (items.mapM step) (items.mapM step') := by
  intro results hresults
  exact mapM_eq_ok_iff.mpr ((mapM_eq_ok_iff.mp hresults).imp fun item result => h item result)

end Resolved

open Resolved (Kept)

/-! ## Resolvers that find more -/

/-- What links find with the first resolver they find with the second one too. -/
structure Resolver.GrowsTo (resolver resolver' : Resolver) : Prop where
  /-- Links to types that lead somewhere lead to the same. -/
  target : ∀ name program defined, resolver.target name program = some defined →
    resolver'.target name program = some defined
  /-- Links to derived addresses that lead somewhere lead to the same. -/
  pda : ∀ name pda, resolver.dictionary.pda? resolver.program name = some pda →
    resolver'.dictionary.pda? resolver'.program name = some pda

namespace Resolver.GrowsTo

variable {resolver resolver' : Resolver}

/-- **A type that is resolved is resolved alike** after links have been added. -/
theorem resolve (h : resolver.GrowsTo resolver') (node : TypeNode) (ctx : ResolveContext) :
    Kept (resolver.resolve node ctx) (resolver'.resolve node ctx) := by
  intro manifest hmanifest
  -- All links on the way have led somewhere, also those behind aliases, so none of them is new.
  have hsame : ∀ name program, resolver.Meets node name program →
      SameTarget (resolver.target name program) (resolver'.target name program) := by
    intro name program hmeets
    obtain ⟨defined, hdefined⟩ :=
      Option.isSome_iff_exists.mp (isSome_of_meets hmeets (lays_of_resolve hmanifest))
    rw [hdefined, h.target name program defined hdefined]
    exact SameTarget.refl _
  exact (congrFun (resolveWithin_eq_of_sameTarget hsame) ctx).symm.trans hmanifest

theorem seedEncoding (h : resolver.GrowsTo resolver') (type : TypeNode) (seed : String) :
    Kept (resolver.seedEncoding type seed) (resolver'.seedEncoding type seed) :=
  (h.resolve type _).bind fun _ => .refl _

theorem boundSeed (h : resolver.GrowsTo resolver') (seed : String) (type : TypeNode)
    (value : InputValue) :
    Kept (resolver.boundSeed seed type value) (resolver'.boundSeed seed type value) := by
  -- Of all values only an argument has a type that is resolved.
  cases value with
  | argument name => exact (h.seedEncoding type seed).bind fun _ => .refl _
  | _ => exact .refl _

theorem resolveSeed (h : resolver.GrowsTo resolver') (place : String) (bindings : List SeedValue)
    (seed : PdaSeed) :
    Kept (resolver.resolveSeed place bindings seed)
      (resolver'.resolveSeed place bindings seed) := by
  unfold Resolver.resolveSeed
  split
  case h_1 => exact .refl _
  case h_2 name type _ =>
    cases boundValue? bindings name with
    | none => exact (h.seedEncoding type name).bind fun _ => .refl _
    | some value => exact (h.boundSeed name type value).bind fun _ => .refl _

/-- **A derivation that is resolved is resolved alike** after links have been added. -/
theorem resolveSeeds (h : resolver.GrowsTo resolver') (pda : Pda) (bindings : List SeedValue) :
    Kept (resolver.resolveSeeds pda bindings) (resolver'.resolveSeeds pda bindings) :=
  (Kept.mapM (h.resolveSeed pda.name bindings) pda.seeds).bind fun _ => .refl _

theorem referredPda (h : resolver.GrowsTo resolver') (account : String) (reference : PdaReference) :
    Kept (resolver.referredPda account reference) (resolver'.referredPda account reference) := by
  cases reference with
  | inline pda => exact .refl _
  | link name =>
    cases hpda : resolver.dictionary.pda? resolver.program name with
    | none =>
      simp only [Resolver.referredPda, hpda]
      exact Resolved.kept_error _ _
    | some pda =>
      simp only [Resolver.referredPda, hpda, h.pda name pda hpda]
      exact .refl _

theorem derivedDefault (h : resolver.GrowsTo resolver') (accounts : List InstructionAccount)
    (index : Nat) (account : String) (value : PdaValue) :
    Kept (resolver.derivedDefault accounts index account value)
      (resolver'.derivedDefault accounts index account value) :=
  (h.referredPda account value.pda).bind fun pda =>
    (h.resolveSeeds pda value.seeds).bind fun _ => .refl _

theorem accountDefault (h : resolver.GrowsTo resolver') (settings : Settings)
    (accounts : List InstructionAccount) (index : Nat) (account : InstructionAccount) :
    Kept (resolver.accountDefault settings accounts index account)
      (resolver'.accountDefault settings accounts index account) := by
  unfold Resolver.accountDefault
  split
  case h_1 value _ => exact h.derivedDefault accounts index account.name value
  all_goals exact .refl _

theorem builderAccountsFrom (h : resolver.GrowsTo resolver') (settings : Settings)
    (accounts rest : List InstructionAccount) (index : Nat) :
    Kept (resolver.builderAccountsFrom settings accounts index rest)
      (resolver'.builderAccountsFrom settings accounts index rest) := by
  induction rest generalizing index with
  | nil => exact .refl _
  | cons account rest ih =>
    exact (h.accountDefault settings accounts index account).bind fun _ =>
      (ih (index + 1)).bind fun _ => .refl _

/-- **Accounts that are resolved are resolved alike** after links have been added. -/
theorem builderAccounts (h : resolver.GrowsTo resolver') (settings : Settings)
    (instruction : Instruction) : Kept (resolver.builderAccounts settings instruction)
      (resolver'.builderAccounts settings instruction) :=
  h.builderAccountsFrom settings instruction.accounts instruction.accounts 0

end Resolver.GrowsTo

/-! ## Dictionaries that hold more -/

namespace Dictionary

variable {dictionary dictionary' : Dictionary}

/-- What is found and resolved with the first dictionary is found and resolved alike with the second
one, by every program. -/
structure Keeps (dictionary dictionary' : Dictionary) : Prop where
  /-- Programs that are found are found again. -/
  program? : ∀ name entry, dictionary.program? name = some entry →
    dictionary'.program? name = some entry
  /-- Defined types that are found are found again. -/
  definedType? : ∀ program name linkedProgram defined,
    dictionary.definedType? program name linkedProgram = some defined →
      dictionary'.definedType? program name linkedProgram = some defined
  /-- Derived addresses that are found are found again. -/
  pda? : ∀ program name pda, dictionary.pda? program name = some pda →
    dictionary'.pda? program name = some pda
  /-- Types that are resolved are resolved alike. -/
  resolve : ∀ program node ctx, Kept (Resolver.resolve ⟨dictionary, program⟩ node ctx)
    (Resolver.resolve ⟨dictionary', program⟩ node ctx)
  /-- Seeds that are resolved are resolved alike. -/
  resolveSeeds : ∀ program pda bindings,
    Kept (Resolver.resolveSeeds ⟨dictionary, program⟩ pda bindings)
      (Resolver.resolveSeeds ⟨dictionary', program⟩ pda bindings)
  /-- Accounts of instructions that are resolved are resolved alike. -/
  builderAccounts : ∀ program settings instruction,
    Kept (Resolver.builderAccounts ⟨dictionary, program⟩ settings instruction)
      (Resolver.builderAccounts ⟨dictionary', program⟩ settings instruction)

theorem growsTo_of_le (h : dictionary ≤ dictionary') (program : String) :
    Resolver.GrowsTo ⟨dictionary, program⟩ ⟨dictionary', program⟩ where
  target _ _ _ := definedType?_of_le h
  pda _ _ := pda?_of_le h

/-- **A larger dictionary keeps what is found and resolved.** -/
theorem keeps_of_le (h : dictionary ≤ dictionary') : dictionary.Keeps dictionary' where
  program? := h
  definedType? _ _ _ _ := definedType?_of_le h
  pda? _ _ _ := pda?_of_le h
  resolve program := (growsTo_of_le h program).resolve
  resolveSeeds program := (growsTo_of_le h program).resolveSeeds
  builderAccounts program := (growsTo_of_le h program).builderAccounts

/-- **Programs are only added to a dictionary.** What was found and resolved before is found and
resolved alike afterwards, a program of a name that is there changes nothing, and the order of
programs of different names plays no part. -/
theorem append_only (programs : List Program) :
    (∀ later, (ofPrograms programs).Keeps (ofPrograms (programs ++ later))) ∧
      (∀ program, program.name ∈ programs.map (·.name) →
        ofPrograms (programs ++ [program]) = ofPrograms programs) ∧
      ∀ later later', later.Perm later' → (later.map (·.name)).Nodup →
        ofPrograms (programs ++ later) = ofPrograms (programs ++ later') := by
  refine ⟨fun later => ?keeps, fun program hname => ?again, fun later later' hperm hnodup => ?order⟩
  case keeps => exact keeps_of_le (ofPrograms_le_append programs later)
  case again =>
    rw [ofPrograms_append, List.foldl_cons, List.foldl_nil]
    exact record_eq_self (isSome_program?_ofPrograms_iff.mpr hname)
  case order =>
    rw [ofPrograms_append, ofPrograms_append]
    exact foldl_record_perm hperm hnodup (ofPrograms programs)

/-- A library whose shelves are known by their titles. -/
def library : Program :=
  .ofTypes "library" [⟨"title", .string .utf8, []⟩, ⟨"shelf", .link "title" none, []⟩]

/-- A library of the same name, in which a title is a number. -/
def renumbered : Program := .ofTypes "library" [⟨"title", .number ⟨.u8, .little⟩, []⟩]

/-- An archive with titles of its own. -/
def archive : Program := .ofTypes "archive" [⟨"title", .bytes, []⟩]

/-- The shelves stay what they are when an archive is added, before or after the library, and also
when the library is declared anew. -/
theorem append_only_library : ∃ shelf,
    Resolver.resolve ⟨ofPrograms [library], "library"⟩ (.link "shelf" none)
      (.root "Loan" .type) = .ok shelf ∧
    Resolver.resolve ⟨ofPrograms [library, archive], "library"⟩ (.link "shelf" none)
      (.root "Loan" .type) = .ok shelf ∧
    ofPrograms [library, renumbered] = ofPrograms [library] ∧
    ofPrograms [library, archive] = ofPrograms [archive, library] := by
  have hshelf : ∃ shelf, Resolver.resolve ⟨ofPrograms [library], "library"⟩ (.link "shelf" none)
      (.root "Loan" .type) = .ok shelf := ⟨_, rfl⟩
  obtain ⟨shelf, hshelf⟩ := hshelf
  obtain ⟨hkeeps, hagain, -⟩ := append_only [library]
  obtain ⟨-, -, horder⟩ := append_only []
  refine ⟨shelf, hshelf, ?_, ?_, ?_⟩
  · exact (hkeeps [archive]).resolve "library" _ _ shelf hshelf
  · exact hagain renumbered (by decide)
  · exact horder [library, archive] [archive, library] (.swap _ _ _) (by decide)

end Dictionary

end DartClient
