import DartClient.Proofs.Client.Locals
import DartClient.Proofs.Client.Units
import DartClient.Proofs.Text.Words

/-!
# Addresses in generated code

Addresses stand in generated code as texts: that of a program behind the constant of its class,
those of programs that derive addresses in the functions for them, and those of accounts that may be
left out in the builders. Generated code reads a text when it runs, so one that is no address should
not get there. The texts of a description do not, since each of them is read before it is put into a
page. The texts in the table of accounts with well-known names are not read; those that the table
has from the beginning are addresses, but the options may add any text to it. So a page can only go
wrong where an account of its instruction is looked up in the options, and there it does.

## Main definitions

* `PlacesAddress`: the texts that the page of a unit has in the place of addresses.
* `Page.ShowsAddress`: where they stand in the page.
* `ClientUnit.lookedUp`: the accounts that are looked up by their names.
* `Options.builtinProgram?`: what the options say about an account.

## Main results

* `Resolver.isSome_or_of_accountDefault`: where the text behind an account comes from.
* `Resolver.forall_locals_isSome_iff`: when all texts in a builder are addresses.
* `PlacesAddress.showsAddress`: the texts stand in the page.
* `placesAddress_isSome_iff`: when all texts are addresses.
-/

namespace DartClient

open Idl (Root Program Instruction InstructionAccount Pda PdaValue InputValue)

/-! ## Texts that are addresses -/

namespace Text.Base58

/-- The codes of the digits, in ascending order of value. -/
def digitCodes : List Nat :=
  List.range' 49 9 ++ List.range' 65 8 ++ List.range' 74 5 ++ List.range' 80 11 ++
    List.range' 97 11 ++ List.range' 109 14

theorem map_toNat_alphabet : alphabet.map Char.toNat = digitCodes := by decide +kernel

/-- The value of a digit is told by its code. -/
theorem findIdx?_alphabet (c : Char) :
    alphabet.findIdx? (· == c) = digitCodes.findIdx? (· == c.toNat) := by
  have hletter : (· == c) = (· == c.toNat) ∘ Char.toNat := by
    funext letter
    rw [Function.comp_apply, Bool.eq_iff_iff, beq_iff_eq, beq_iff_eq, Char.toNat_inj]
  rw [hletter, ← List.findIdx?_map, map_toNat_alphabet]

/-- The values of digits, told by their codes. -/
def codeValues? (letters : List Char) : Option (List Nat) :=
  letters.mapM fun letter => digitCodes.findIdx? (· == letter.toNat)

theorem digitValues_of_codeValues? {letters : List Char} {digits : List Nat} (index : Nat)
    (h : codeValues? letters = some digits) : digitValues index letters = .ok digits := by
  induction letters generalizing index digits with
  | nil =>
    obtain rfl := Option.some.inj h
    rfl
  | cons letter letters ih =>
    rw [codeValues?, List.mapM_cons] at h
    obtain ⟨digit, hdigit, h⟩ := Option.bind_eq_some_iff.mp h
    obtain ⟨rest, hrest, h⟩ := Option.bind_eq_some_iff.mp h
    obtain rfl := Option.some.inj h
    have hascii : ¬ 128 ≤ letter.toNat := by
      have hbound : ∀ code ∈ digitCodes, ¬ 128 ≤ code := by decide
      obtain ⟨hlt, hcode, -⟩ := List.findIdx?_eq_some_iff_getElem.mp hdigit
      rw [← beq_iff_eq.mp hcode]
      exact hbound _ (List.getElem_mem hlt)
    simp only [digitValues, if_neg hascii, findIdx?_alphabet, hdigit, ih _ hrest]
    rfl

end Text.Base58

open Text.Base58 in
/-- Whether the value of a text in base 58 has 32 bytes. A text is read faster in this way. -/
def writesAddress (letters : List Char) : Bool :=
  match codeValues? letters with
  | some digits =>
    (digits.takeWhile (· == 0)).length + (digitsOf 256 (ofDigits 58 digits)).length == 32
  | none => false

open Text.Base58 in
theorem isSome_of_writesAddress {letters : List Char} (h : writesAddress letters = true) :
    (Address.parse? (String.ofList letters)).isSome := by
  unfold writesAddress at h
  split at h
  case h_1 digits hdigits =>
    obtain ⟨bytes, hdecode, hlength⟩ : ∃ bytes, decode (String.ofList letters) = .ok bytes ∧
        bytes.length = 32 := by
      rw [decode, String.toList_ofList, digitValues_of_codeValues? 0 hdigits]
      exact ⟨_, rfl, by simpa using h⟩
    simp only [Address.parse?, hdecode, Address.ofBytes?, hlength, dif_pos, Option.isSome_some]
  case h_2 => cases h

/-! ## The table of well-known names -/

/-- The address that options give to a name; of several entries the last one. -/
def Options.builtinProgram? (options : Options) (name : String) : Option String :=
  options.builtinPrograms.reverse.lookup name

/-- Options go before what is set. -/
theorem builtinProgram?_withOptions (settings : Settings) (options : Options) (name : String) :
    (settings.withOptions options).builtinProgram? name =
      (options.builtinProgram? name).or (settings.builtinProgram? name) := by
  have hlast (entries : List (String × String)) :
      entries.findSome? (fun entry => if compare entry.1 name = .eq then some entry.2 else none) =
        entries.lookup name := by
    induction entries with
    | nil => rfl
    | cons entry entries ih =>
      rw [List.findSome?_cons, List.lookup_cons, ih]
      by_cases hname : name = entry.1
      · simp [hname]
      · simp [Ne.symm hname, beq_false_of_ne hname]
  rw [Settings.builtinProgram?, Settings.withOptions, Std.ExtTreeMap.getElem?_insertMany_list,
    List.findSomeRev?_eq_findSome?_reverse]
  exact congrArg (Option.or · _) (hlast _)

/-- The table holds addresses where no options are given. -/
theorem isSome_of_builtinProgram?_default {name text : String}
    (h : Settings.default.builtinProgram? name = some text) : (Address.parse? text).isSome := by
  rw [Settings.builtinProgram?, Settings.default, Settings.defaultBuiltinPrograms] at h
  have hmem := mem_of_getElem?_ofList h
  simp only [List.mem_cons, Prod.mk.injEq, List.not_mem_nil, or_false] at hmem
  rcases hmem with h | h | h | h | h | h | h | h | h
  all_goals
    rw [h.2]
    exact isSome_of_writesAddress (by decide +kernel)

/-- Whether the table has an address for a name depends on the options alone. -/
theorem forall_withOptions_isSome_iff (options : Options) (name : String) :
    (∀ text, (Settings.default.withOptions options).builtinProgram? name = some text →
        (Address.parse? text).isSome) ↔
      ∀ text, options.builtinProgram? name = some text → (Address.parse? text).isSome := by
  simp only [builtinProgram?_withOptions, Option.or_eq_some_iff]
  constructor
  · intro hall text htext
    exact hall text (.inl htext)
  · rintro hall text (htext | ⟨-, htext⟩)
    · exact hall text htext
    · exact isSome_of_builtinProgram?_default htext

/-! ## The texts behind accounts -/

/-- The text from which an account is filled in, or that of the program which derives it. -/
def AccountDefault.text? : AccountDefault → Option String
  | .address text => some text
  | .derived _ program => program
  | .none | .absent | .programId => Option.none

/-- Whether an account has no default that says how it is filled in, so that it is looked up by its
name. -/
def Idl.InstructionAccount.isLookedUp (account : InstructionAccount) : Bool :=
  match account.defaultValue with
  | some (.pda _) | some (.publicKey _) | some .programId => false
  | _ => true

theorem Idl.InstructionAccount.isLookedUp_iff {account : InstructionAccount} :
    account.isLookedUp = true ↔ (∀ value, account.defaultValue ≠ some (.pda value)) ∧
      (∀ key, account.defaultValue ≠ some (.publicKey key)) ∧
      account.defaultValue ≠ some .programId := by
  unfold isLookedUp
  split <;> simp_all

namespace Resolver

variable {resolver : Resolver} {settings : Settings} {accounts : List InstructionAccount}
  {index : Nat}

/-- An account without a default that says more has what the table says. -/
theorem text?_undeclaredDefault (account : InstructionAccount) :
    (undeclaredDefault settings account).text? = settings.builtinProgram? account.name := by
  unfold undeclaredDefault
  split
  case h_1 htext => exact htext.symm
  case h_2 hnone =>
    rw [hnone]
    split <;> rfl

theorem accountDefault_of_isLookedUp {account : InstructionAccount}
    (h : account.isLookedUp = true) :
    resolver.accountDefault settings accounts index account =
      .ok (undeclaredDefault settings account) := by
  obtain ⟨hpda, hkey, hprogram⟩ := InstructionAccount.isLookedUp_iff.mp h
  unfold accountDefault
  split
  case h_1 hvalue => exact absurd hvalue (hpda _)
  case h_2 hvalue => exact absurd hvalue (hkey _)
  case h_3 hvalue => exact absurd hvalue hprogram
  case h_4 => rfl

/-- **Where the text behind an account comes from.** It has been read, or it is what the table says
about the name of the account. -/
theorem isSome_or_of_accountDefault {account : InstructionAccount} {default : AccountDefault}
    {text : String} (h : resolver.accountDefault settings accounts index account = .ok default)
    (htext : default.text? = some text) :
    (Address.parse? text).isSome ∨
      account.isLookedUp = true ∧ settings.builtinProgram? account.name = some text := by
  by_cases hlooked : account.isLookedUp = true
  · rw [accountDefault_of_isLookedUp hlooked] at h
    obtain rfl := Except.ok.inj h
    exact .inr ⟨hlooked, (text?_undeclaredDefault account).symm.trans htext⟩
  left
  unfold accountDefault at h
  split at h
  case h_1 value _ =>
    obtain ⟨pda, derivation, -, -, hprogram, rfl⟩ := exists_of_derivedDefault h
    split at htext
    · exact hprogram text htext
    · cases htext
  case h_2 key _ =>
    obtain ⟨_, haddress, h⟩ := Resolved.bind_eq_ok_iff.mp h
    obtain rfl := Except.ok.inj h
    obtain rfl := Option.some.inj htext
    exact isSome_of_readAddress haddress
  case h_3 =>
    obtain rfl := Except.ok.inj h
    cases htext
  case h_4 hpda hkey hprogram =>
    exact absurd (InstructionAccount.isLookedUp_iff.mpr ⟨hpda, hkey, hprogram⟩) hlooked

end Resolver

/-! ## The texts in functions -/

/-- The expression for an address in the value of a local: the address itself, or that of the
program which derives it. -/
def Fallback.term : Fallback → AddressTerm
  | .address term => term
  | .derived _ program => program

/-- An account has one local or none, with the text behind it. -/
theorem exists_local_literal_iff {account : BuilderAccount} {text : String} :
    (∃ entry, (account.plainLocal? = some entry ∨ account.derivedLocal? = some entry) ∧
      entry.fallback.term = .literal text) ↔ account.default.text? = some text := by
  obtain ⟨account, default⟩ := account
  cases default with
  | none | absent | programId | address =>
    simp [BuilderAccount.plainLocal?, BuilderAccount.derivedLocal?, AccountDefault.text?,
      Fallback.term]
  | derived derivation program =>
    cases program <;>
      simp [BuilderAccount.plainLocal?, BuilderAccount.derivedLocal?, AccountDefault.text?,
        Fallback.term]

namespace Builder

/-- The texts in a builder are those behind its accounts. -/
theorem exists_literal_iff {builder : Builder} {text : String} :
    (∃ entry ∈ builder.locals, entry.fallback.term = .literal text) ↔
      ∃ account ∈ builder.accounts, account.default.text? = some text := by
  simp only [← exists_local_literal_iff]
  constructor
  · rintro ⟨entry, hentry, hterm⟩
    rw [locals, List.mem_cons, List.mem_append, List.mem_filterMap, List.mem_filterMap] at hentry
    obtain rfl | ⟨account, haccount, hlocal⟩ | ⟨account, haccount, hlocal⟩ := hentry
    · cases hterm
    · exact ⟨account, haccount, entry, .inl hlocal, hterm⟩
    · exact ⟨account, haccount, entry, .inr hlocal, hterm⟩
  · rintro ⟨account, haccount, entry, hlocal, hterm⟩
    refine ⟨entry, ?_, hterm⟩
    rw [locals, List.mem_cons, List.mem_append, List.mem_filterMap, List.mem_filterMap]
    exact .inr (hlocal.imp (⟨account, haccount, ·⟩) (⟨account, haccount, ·⟩))

/-- What goes for all texts in a builder goes for those behind its accounts, and the other way
round. -/
theorem forall_literal_iff {builder : Builder} {p : String → Prop} :
    (∀ entry ∈ builder.locals, ∀ text, entry.fallback.term = .literal text → p text) ↔
      ∀ account ∈ builder.accounts, ∀ text, account.default.text? = some text → p text := by
  constructor
  · intro hall account haccount text htext
    obtain ⟨entry, hentry, hterm⟩ := exists_literal_iff.mpr ⟨account, haccount, htext⟩
    exact hall entry hentry text hterm
  · intro hall entry hentry text hterm
    obtain ⟨account, haccount, htext⟩ := exists_literal_iff.mp ⟨entry, hentry, hterm⟩
    exact hall account haccount text htext

/-- The value of a local is written with its expression for an address. -/
theorem exists_line_of_mem_locals {builder : Builder} {entry : BuilderLocal}
    (h : entry ∈ builder.locals) :
    ∃ line ∈ builder.lines, entry.fallback.term.render.toList <:+: line.toList := by
  obtain ⟨line, hline, hterm⟩ : ∃ line ∈ builder.localLines entry,
      entry.fallback.term.render.toList <:+: line.toList := by
    obtain ⟨name, parameter, fallback⟩ := entry
    cases fallback with
    | address term =>
      refine ⟨_, List.mem_singleton_self _, ?_⟩
      simp only [String.toList_append, Fallback.term]
      exact List.infix_append _ _ _
    | derived derivation program =>
      refine ⟨"    programId: " ++ program.render ++ ",", ?_, ?_⟩
      · simp [localLines, derivationCall]
      · simp only [String.toList_append, Fallback.term]
        exact List.infix_append _ _ _
  exact ⟨line, mem_lines_of_mem_localLines h hline, hterm⟩

end Builder

/-- The deriving program of a helper function is written in its first statement. -/
theorem DerivationHelper.exists_line {helper : DerivationHelper} {term : AddressTerm}
    (hterm : helper.program = term) :
    ∃ line ∈ helper.lines, term.render.toList <:+: line.toList := by
  subst hterm
  refine ⟨"  final " ++ programVariable ++ " = " ++ helper.program.render ++ ";", ?_, ?_⟩
  · simp [lines]
  · simp only [String.toList_append]
    exact List.infix_append _ _ _

namespace Resolver

variable {resolver : Resolver} {settings : Settings}

/-- The text of another program that derives an address has been read. -/
theorem isSome_of_derivationHelper {program : Program} {pda : Pda} {helper : DerivationHelper}
    {diagnostics : List Diagnostic} {imports : ImportMap} {text : String}
    (h : resolver.derivationHelper program pda = .ok (helper, diagnostics, imports))
    (hterm : helper.program = .literal text) : (Address.parse? text).isSome := by
  obtain ⟨-, _, hderiver⟩ := resolveSeeds_of_derivationHelper h
  rw [hterm, derivingProgram] at hderiver
  split at hderiver
  · obtain ⟨_, haddress, hderiver⟩ := Resolved.bind_eq_ok_iff.mp hderiver
    obtain ⟨hliteral, -⟩ := Prod.mk.inj (Except.ok.inj hderiver)
    obtain rfl := AddressTerm.literal.inj hliteral
    exact isSome_of_readAddress haddress
  · cases hderiver

/-- **When all texts in a builder are addresses.** This is so if and only if the table has addresses
for those accounts that are looked up in it. -/
theorem forall_locals_isSome_iff {instruction : Instruction} {accounts : List BuilderAccount}
    (h : resolver.builderAccounts settings instruction = .ok accounts) (builder : Builder)
    (hbuilder : builder.accounts = accounts) :
    (∀ entry ∈ builder.locals, ∀ text, entry.fallback.term = .literal text →
        (Address.parse? text).isSome) ↔
      ∀ account ∈ instruction.accounts, account.isLookedUp = true → ∀ text,
        settings.builtinProgram? account.name = some text → (Address.parse? text).isSome := by
  subst hbuilder
  rw [Builder.forall_literal_iff, ← accounts_of_builderAccounts h, List.forall_mem_map]
  constructor
  · intro hall account haccount hlooked text htext
    obtain ⟨index, hget⟩ := List.mem_iff_getElem?.mp haccount
    have hdefault := accountDefault_of_builderAccounts h hget
    rw [accountDefault_of_isLookedUp hlooked] at hdefault
    refine hall account haccount text ?_
    rw [← Except.ok.inj hdefault, text?_undeclaredDefault, htext]
  · intro hall account haccount text htext
    obtain ⟨index, hget⟩ := List.mem_iff_getElem?.mp haccount
    have hdefault := accountDefault_of_builderAccounts h hget
    rcases isSome_or_of_accountDefault hdefault htext with hsome | ⟨hlooked, hfound⟩
    · exact hsome
    · exact hall account haccount hlooked text hfound

end Resolver

/-! ## The texts on pages -/

/-- The page of a unit has a text in the place of an address: behind the constant of a program, as
the program that derives an address, or in a local of a builder. The literals of all pages come from
the last two, since functions for derived addresses and builders alone have expressions for
addresses. -/
inductive PlacesAddress (dictionary : Dictionary) (settings : Settings) (program : Program) :
    UnitContent → Page → String → Prop
  | constant {page : Page} (hpage : programPage program = .ok page) :
    PlacesAddress dictionary settings program .program page program.publicKey
  | deriver {pda : Pda} {page : Page} {shown diagnostics : List Diagnostic}
      {helper : DerivationHelper} {imports : ImportMap} {text : String}
      (hpage : Resolver.pdaPage ⟨dictionary, program.name⟩ program pda = .ok ⟨[page], shown⟩)
      (hhelper : Resolver.derivationHelper ⟨dictionary, program.name⟩ program pda =
        .ok (helper, diagnostics, imports))
      (hterm : helper.program = .literal text) :
    PlacesAddress dictionary settings program (.pda pda) page text
  | filled {instruction : Instruction} {accounts : List BuilderAccount}
      {discriminator : Discriminator} {cls : Option ArgumentClass} {entry : BuilderLocal}
      {text : String}
      (haccounts : Resolver.builderAccounts ⟨dictionary, program.name⟩ settings instruction =
        .ok accounts)
      (hentry : entry ∈ Builder.locals
        ⟨instruction, accounts, programClass program.name, discriminator.bytes⟩)
      (hterm : entry.fallback.term = .literal text) :
    PlacesAddress dictionary settings program (.instruction instruction)
      (instructionPageOf instruction accounts program discriminator cls) text

/-- A text stands in a page as a literal for an address, or behind the constant for that of the
program. -/
def Page.ShowsAddress (page : Page) (text : String) : Prop :=
  (AddressTerm.literal text).render.toList <:+: page.body.toList ∨
    ("  static const String programId = '" ++ text ++ "';").toList <:+: page.body.toList

/-- What stands in a line of an item stands in the body of its page. -/
theorem infix_body_ofSource {path : String} {imports : ImportMap} {defines : List String}
    {file : SourceFile} {item : Item} {line : String} {piece : List Char}
    (hitem : item ∈ file.items) (hline : line ∈ item.lines) (h : piece <:+: line.toList) :
    piece <:+: (Page.ofSource path imports defines file).body.toList := by
  have hmem : line ∈ file.lines :=
    List.mem_append_right _ (Text.mem_intercalate_of_mem (List.mem_map_of_mem hitem) hline)
  have hbody : (Text.unlines file.lines).toList =
      (file.lines.map fun line => line.toList ++ ['\n']).flatten := by
    generalize file.lines = lines
    induction lines with
    | nil => rfl
    | cons line lines ih => simp_all [Text.unlines]
  show piece <:+: (Text.unlines file.lines).toList
  rw [hbody]
  have hended : line.toList <:+: line.toList ++ ['\n'] := (List.prefix_append _ _).isInfix
  exact (h.trans hended).trans
    (List.infix_of_mem_flatten (List.mem_map_of_mem (f := fun line => line.toList ++ ['\n']) hmem))

/-- The texts stand in the page. -/
theorem PlacesAddress.showsAddress {dictionary : Dictionary} {settings : Settings}
    {program : Program} {content : UnitContent} {page : Page} {text : String}
    (h : PlacesAddress dictionary settings program content page text) : page.ShowsAddress text := by
  cases h with
  | constant hpage =>
    obtain ⟨_, -, hpage⟩ := Resolved.bind_eq_ok_iff.mp hpage
    obtain rfl := Except.ok.inj hpage
    refine .inr (infix_body_ofSource (List.mem_singleton_self _) ?_ (List.infix_refl _))
    simp [Item.lines, programLines]
  | deriver hpage hhelper hterm =>
    rw [Resolver.pdaPage, hhelper] at hpage
    obtain ⟨hpages, -⟩ := Rendering.mk.inj (Except.ok.inj hpage)
    obtain rfl := List.singleton_inj.mp hpages
    obtain ⟨line, hline, hrender⟩ := DerivationHelper.exists_line hterm
    exact .inl (infix_body_ofSource (List.mem_singleton_self _) hline hrender)
  | filled haccounts hentry hterm =>
    obtain ⟨line, hline, hrender⟩ := Builder.exists_line_of_mem_locals hentry
    rw [hterm] at hrender
    exact .inl (infix_body_ofSource (List.mem_append_right _ List.mem_cons_self) hline hrender)

/-- The accounts of a unit that are looked up by their names. -/
def ClientUnit.lookedUp (part : ClientUnit) : List InstructionAccount :=
  match part.content with
  | .instruction instruction => instruction.accounts.filter (·.isLookedUp)
  | .account _ | .definedType _ | .pda _ | .program | .errors => []

/-- **When only addresses reach generated code.** A unit is generated with the usual settings and
some options. The texts that its pages have in the place of addresses stand there as they are. All
of them are addresses if and only if the options give addresses to those accounts of its instruction
that are looked up by their names and found in the options. So this holds for programs and derived
addresses in any case. -/
theorem placesAddress_isSome_iff {root : Root} (options : Options) {part : ClientUnit}
    {program : Program} {rendering : Rendering} (hprogram : part.program? = some program)
    (hgenerate : part.generate (.ofRoot root) (Settings.default.withOptions options) =
      .ok rendering) :
    (∀ page text, PlacesAddress (.ofRoot root) (Settings.default.withOptions options) program
      part.content page text → page.ShowsAddress text) ∧
    ((∀ page ∈ rendering.pages, ∀ text, PlacesAddress (.ofRoot root)
        (Settings.default.withOptions options) program part.content page text →
          (Address.parse? text).isSome) ↔
      ∀ account ∈ part.lookedUp, ∀ text, options.builtinProgram? account.name = some text →
        (Address.parse? text).isSome) := by
  refine ⟨fun _ _ => PlacesAddress.showsAddress, ?_⟩
  rw [ClientUnit.generate, hprogram] at hgenerate
  obtain ⟨path, content⟩ := part
  cases content with
  | account | definedType | errors =>
    exact ⟨fun _ => nofun, fun _ _ _ _ h => nomatch h⟩
  | program =>
    refine ⟨fun _ => nofun, fun _ _ _ _ h => ?_⟩
    obtain ⟨hpage⟩ := h
    obtain ⟨_, haddress, -⟩ := Resolved.bind_eq_ok_iff.mp hpage
    exact isSome_of_readAddress haddress
  | pda pda =>
    refine ⟨fun _ => nofun, fun _ _ _ _ h => ?_⟩
    cases h with
    | deriver _ hhelper hterm => exact Resolver.isSome_of_derivationHelper hhelper hterm
  | instruction instruction =>
    obtain ⟨accounts, haccounts, hgenerate⟩ := Resolved.bind_eq_ok_iff.mp hgenerate
    obtain ⟨discriminator, -, hgenerate⟩ := Resolved.bind_eq_ok_iff.mp hgenerate
    obtain ⟨cls, -, hgenerate⟩ := Resolved.bind_eq_ok_iff.mp hgenerate
    obtain rfl := Except.ok.inj hgenerate
    -- What the options say and what the table says then makes no difference here.
    simp only [ClientUnit.lookedUp, List.mem_filter, and_imp, ← forall_withOptions_isSome_iff]
    constructor
    · intro hall
      refine (Resolver.forall_locals_isSome_iff haccounts
        ⟨instruction, accounts, programClass program.name, discriminator.bytes⟩ rfl).mp ?_
      intro entry hentry text hterm
      exact hall _ (List.mem_singleton_self _) text (.filled haccounts hentry hterm)
    · intro hall page hpage text h
      cases h with
      | filled haccounts hentry hterm =>
        exact (Resolver.forall_locals_isSome_iff haccounts _ rfl).mpr hall _ hentry text hterm

/-- An instruction with an account that has no default. -/
def readPrice : Instruction where
  name := "readPrice"
  docs := []
  accounts := [Resolver.safeAccount "oracle" none]
  arguments := []
  discriminators := []

/-- A program with that instruction. -/
def quoting : Root where
  standard := "codama"
  version := "1.0.0"
  program := { Idl.Program.ofTypes "quoting" [] with
    publicKey := "11111111111111111111111111111111"
    instructions := [readPrice] }
  additionalPrograms := []

/-- The unit of the instruction. -/
def pricePart : ClientUnit :=
  ⟨[.root quoting, .program quoting.program, .instruction readPrice], .instruction readPrice⟩

/-- The usual settings with a text for the account. -/
def oracleOptions (text : String) : Options where
  libraryName := none
  packageName := none
  packageVersion := none
  packageDescription := none
  aliases := []
  builtinPrograms := [("oracle", text)]
  clearsLibrary := none
  formatsCode := none
  isParallel := none

/-- The unit is generated whatever the text is, and its page has the text. -/
theorem exists_pricePage (text : String) : ∃ page diagnostics,
    pricePart.generate (.ofRoot quoting) (Settings.default.withOptions (oracleOptions text)) =
      .ok ⟨[page], diagnostics⟩ ∧
    PlacesAddress (.ofRoot quoting) (Settings.default.withOptions (oracleOptions text))
      quoting.program pricePart.content page text :=
  ⟨_, _, rfl, .filled rfl (List.mem_cons_of_mem _ List.mem_cons_self) rfl⟩

/-- All texts on the page are addresses if that of the account is one. -/
theorem placesAddress_isSome_price : ∃ page diagnostics,
    pricePart.generate (.ofRoot quoting) (Settings.default.withOptions
      (oracleOptions "11111111111111111111111111111112")) = .ok ⟨[page], diagnostics⟩ ∧
    page.ShowsAddress "11111111111111111111111111111112" ∧
    ∀ text, PlacesAddress (.ofRoot quoting) (Settings.default.withOptions
        (oracleOptions "11111111111111111111111111111112")) quoting.program pricePart.content page
          text → (Address.parse? text).isSome := by
  obtain ⟨page, diagnostics, hgenerate, hplaces⟩ :=
    exists_pricePage "11111111111111111111111111111112"
  have hprogram : pricePart.program? = some quoting.program := rfl
  obtain ⟨hshows, hvalid⟩ := placesAddress_isSome_iff _ hprogram hgenerate
  refine ⟨page, diagnostics, hgenerate, hshows page _ hplaces, ?_⟩
  refine hvalid.mpr ?_ page (List.mem_singleton_self page)
  intro account haccount text htext
  obtain rfl := List.mem_singleton.mp haccount
  obtain rfl := Option.some.inj htext
  rw [Resolver.parse?_oneAddress]
  rfl

/-- A text that is no address gets into generated code through the options. -/
theorem placesAddress_price_of_no_address : ∃ page diagnostics,
    pricePart.generate (.ofRoot quoting) (Settings.default.withOptions
      (oracleOptions "not an address")) = .ok ⟨[page], diagnostics⟩ ∧
    PlacesAddress (.ofRoot quoting) (Settings.default.withOptions (oracleOptions "not an address"))
      quoting.program pricePart.content page "not an address" ∧
    page.ShowsAddress "not an address" ∧ Address.parse? "not an address" = none := by
  obtain ⟨page, diagnostics, hgenerate, hplaces⟩ := exists_pricePage "not an address"
  exact ⟨page, diagnostics, hgenerate, hplaces, hplaces.showsAddress, by decide +kernel⟩

end DartClient
