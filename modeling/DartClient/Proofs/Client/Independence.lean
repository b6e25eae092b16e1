import DartClient.Proofs.Client.Cut
import DartClient.Proofs.Seed.Agreement

/-!
# Units do not interfere

Two descriptions that differ in one account or one instruction have the same client, but for what
belongs to that unit: its own pages, the pages of the derived addresses that the instruction
introduces, and the page of the library, which lists the others. Whether the unit can be generated
in one of the descriptions, in both or in none does not matter.

Units that match are generated alike, so what is left is the table of files, where the last of
several pages of one path stands. A file depends on the pages of its path only, and at a path that
no page of the unit has these are the same.

## Main definitions

* `unitResult`: a unit with what has become of it.
* `Cut.others`: the units that do not belong to the cut one.
* `Cut.Avoids`: a path is not that of a page which belongs to the cut unit.

## Main results

* `getElem?_clientFiles_congr`: a file depends on nothing but the pages of its path.
* `same_client_of_varies`: the failures, the diagnostics and the files of the others are the same.
-/

namespace DartClient

open Idl (Root Program Instruction Pda)
open Resolver (safe safeAccount safeBindings)

/-! ## Files -/

section Files

/-- What a table made of a list holds under a key depends on the entries of that key. -/
theorem getElem?_ofList_filter {α : Type} (entries : List (String × α)) (key : String) :
    (Std.ExtTreeMap.ofList entries)[key]? =
      (Std.ExtTreeMap.ofList (entries.filter fun entry => entry.1 = key))[key]? := by
  suffices hmany : ∀ table table' : Std.ExtTreeMap String α, table[key]? = table'[key]? →
      (table.insertMany entries)[key]? =
        (table'.insertMany (entries.filter fun entry => entry.1 = key))[key]? by
    rw [Std.ExtTreeMap.ofList_eq_insertMany_empty, Std.ExtTreeMap.ofList_eq_insertMany_empty]
    exact hmany ∅ ∅ rfl
  induction entries with
  | nil => exact fun table table' h => h
  | cons entry entries ih =>
    intro table table' h
    rw [Std.ExtTreeMap.insertMany_cons]
    by_cases hkey : entry.1 = key
    · rw [List.filter_cons_of_pos (by simpa using hkey), Std.ExtTreeMap.insertMany_cons]
      apply ih
      rw [Std.ExtTreeMap.getElem?_insert, Std.ExtTreeMap.getElem?_insert, h]
    · -- An entry of another key goes into one of the tables only, and is not seen there.
      rw [List.filter_cons_of_neg (by simpa using hkey)]
      apply ih
      rw [Std.ExtTreeMap.getElem?_insert, if_neg (by simpa using hkey), h]

/-- The pages of a path. -/
def pagesAt (settings : Settings) (path : String) (pages : List Page) : List Page :=
  pages.filter fun page => clientPath settings page = path

theorem pagesAt_append (settings : Settings) (path : String) (pages pages' : List Page) :
    pagesAt settings path (pages ++ pages') =
      pagesAt settings path pages ++ pagesAt settings path pages' := List.filter_append _ _

theorem pagesAt_eq_nil_iff {settings : Settings} {path : String} {pages : List Page} :
    pagesAt settings path pages = [] ↔ ∀ page ∈ pages, clientPath settings page ≠ path := by
  simp [pagesAt, List.filter_eq_nil_iff]

/-- **A file depends on the pages of its path only.** -/
theorem getElem?_clientFiles_congr {pages pages' : List Page} {settings : Settings} {path : String}
    (h : pagesAt settings path pages = pagesAt settings path pages') (program : String) :
    (clientFiles pages settings program)[path]? = (clientFiles pages' settings program)[path]? := by
  have hentries : ∀ pages : List Page,
      (pages.map fun page => (clientPath settings page, page.render settings.aliases)).filter
          (fun entry => entry.1 = path) =
        (pagesAt settings path pages).map fun page =>
          (clientPath settings page, page.render settings.aliases) :=
    fun pages => List.filter_map
  -- The description of the package is written over both tables and is the same.
  rw [clientFiles, clientFiles, Std.ExtTreeMap.getElem?_insert, Std.ExtTreeMap.getElem?_insert,
    getElem?_ofList_filter, hentries, h, ← hentries, ← getElem?_ofList_filter]

end Files

/-! ## Results -/

/-- A unit with what has become of it. -/
def unitResult (root : Root) (settings : Settings) (part : ClientUnit) : UnitResult :=
  ⟨part, part.generate (.ofRoot root) settings⟩

/-- The pages of units. -/
def unitPages (root : Root) (settings : Settings) (units : List ClientUnit) : List Page :=
  units.flatMap fun part => (unitResult root settings part).pages

/-- Where an account, an instruction or a derived address has its page in the library. -/
def ownModule? : UnitContent → Option String
  | .account account => some (generatedModule "accounts" (fileStem account.name))
  | .instruction instruction => some (generatedModule "instructions" (fileStem instruction.name))
  | .pda pda => some (generatedModule "pdas" (fileStem pda.name))
  | _ => none

/-- The path of the page of a derived address. -/
def pdaPath (settings : Settings) (name : String) : String :=
  settings.libraryName ++ "/" ++ generatedModule "pdas" (fileStem name)

/-- The path of the page of the library. -/
def indexPath (settings : Settings) : String :=
  settings.libraryName ++ "/" ++ (settings.libraryName ++ ".dart")

variable {root root' : Root} {settings : Settings} {path : String}

/-- An account, an instruction or a derived address has all of its pages in one place. -/
theorem path_of_ownModule? {part : ClientUnit} {module : String}
    (hmodule : ownModule? part.content = some module) {page : Page}
    (hpage : page ∈ (unitResult root settings part).pages) : page.path = module := by
  -- A unit that fails has no pages, and only three kinds of unit have a place of their own.
  unfold UnitResult.pages at hpage
  split at hpage
  case h_2 => cases hpage
  case h_1 rendering hgenerate =>
    rw [unitResult, ClientUnit.generate] at hgenerate
    split at hgenerate
    case h_1 => cases hgenerate
    case h_2 program _ =>
      cases hcontent : part.content with
      | account account =>
        rw [hcontent] at hmodule hgenerate
        obtain ⟨cls, hcls, hrendering⟩ := Resolved.bind_eq_ok_iff.mp hgenerate
        obtain ⟨manifest, -, hcls⟩ := Resolved.bind_eq_ok_iff.mp hcls
        obtain ⟨discriminator, -, hcls⟩ := Resolved.bind_eq_ok_iff.mp hcls
        obtain rfl := Except.ok.inj hcls
        obtain rfl := Except.ok.inj hrendering
        obtain rfl := List.mem_singleton.mp hpage
        exact Option.some.inj hmodule
      | instruction instruction =>
        rw [hcontent] at hmodule hgenerate
        obtain ⟨accounts, -, hgenerate⟩ := Resolved.bind_eq_ok_iff.mp hgenerate
        obtain ⟨discriminator, -, hgenerate⟩ := Resolved.bind_eq_ok_iff.mp hgenerate
        obtain ⟨cls, -, hrendering⟩ := Resolved.bind_eq_ok_iff.mp hgenerate
        obtain rfl := Except.ok.inj hrendering
        obtain rfl := List.mem_singleton.mp hpage
        exact Option.some.inj hmodule
      | pda pda =>
        rw [hcontent] at hmodule hgenerate
        obtain ⟨helper, -, hrendering⟩ := Resolved.bind_eq_ok_iff.mp hgenerate
        obtain rfl := Except.ok.inj hrendering
        obtain rfl := List.mem_singleton.mp hpage
        exact Option.some.inj hmodule
      | definedType | program | errors =>
        rw [hcontent] at hmodule
        cases hmodule

theorem path_of_content_pda {part : ClientUnit} {pda : Pda} (hcontent : part.content = .pda pda)
    {page : Page} (hpage : page ∈ (unitResult root settings part).pages) :
    clientPath settings page = pdaPath settings pda.name := by
  have hmodule : ownModule? part.content = some (generatedModule "pdas" (fileStem pda.name)) := by
    rw [hcontent, ownModule?]
  rw [clientPath, path_of_ownModule? hmodule hpage, pdaPath]

theorem content_of_inlinePda? {part : ClientUnit} {pda : Pda} (h : part.inlinePda? = some pda) :
    part.content = .pda pda := by
  unfold ClientUnit.inlinePda? at h
  split at h
  case h_1 hcontent _ => rw [hcontent, Option.some.inj h]
  case h_2 => cases h

section Matching

variable {units units' : List ClientUnit}

/-- What matching units have in common, lists of them have. -/
theorem map_eq_of_matches {α : Type} {f f' : ClientUnit → α}
    (hf : ∀ part part' : ClientUnit, part.Matches part' → f part = f' part')
    (h : List.Forall₂ ClientUnit.Matches units units') : units.map f = units'.map f' := by
  rw [← List.forall₂_eq_eq_eq]
  exact List.rel_map hf h

variable (hprograms : List.Forall₂ Program.SameBase root.programs root'.programs)
include hprograms

theorem pages_eq_of_matches (settings : Settings)
    (h : List.Forall₂ ClientUnit.Matches units units') :
    unitPages root settings units = unitPages root' settings units' := by
  rw [unitPages, unitPages, List.flatMap_def, List.flatMap_def]
  refine congrArg List.flatten (map_eq_of_matches (fun part part' hmatches => ?_) h)
  simp only [unitResult, UnitResult.pages, hmatches.generate_eq hprograms]

theorem diagnostics_eq_of_matches (settings : Settings)
    (h : List.Forall₂ ClientUnit.Matches units units') :
    (units.map (unitResult root settings)).flatMap UnitResult.diagnostics =
      (units'.map (unitResult root' settings)).flatMap UnitResult.diagnostics := by
  rw [List.flatMap_def, List.flatMap_def, List.map_map, List.map_map]
  refine congrArg List.flatten (map_eq_of_matches (fun part part' hmatches => ?_) h)
  simp only [Function.comp_apply, unitResult, UnitResult.diagnostics,
    hmatches.generate_eq hprograms]

theorem failures_eq_of_matches (settings : Settings)
    (h : List.Forall₂ ClientUnit.Matches units units') :
    (units.map (unitResult root settings)).filterMap UnitResult.failure? =
      (units'.map (unitResult root' settings)).filterMap UnitResult.failure? := by
  have hfailures : ∀ results : List UnitResult, results.filterMap UnitResult.failure? =
      (results.map UnitResult.failure?).filterMap id := by
    intro results
    rw [List.filterMap_map]
    rfl
  rw [hfailures, hfailures, List.map_map, List.map_map]
  refine congrArg (List.filterMap id) (map_eq_of_matches (fun part part' hmatches => ?_) h)
  simp only [Function.comp_apply, unitResult, UnitResult.failure?, hmatches.name_eq,
    hmatches.generate_eq hprograms]

end Matching

/-! ## What does not belong to a unit -/

namespace Cut

variable {units : List ClientUnit} {content content' : UnitContent}

/-- The other units, without all derived addresses that instructions introduce. -/
def others (cut : Cut units content) : List ClientUnit :=
  (cut.front ++ cut.back).filter fun part => part.inlinePda?.isNone

/-- The path is neither that of a page of the cut unit nor that of a derived address which the unit
introduces. -/
structure Avoids (cut : Cut units content) (root : Root) (settings : Settings) (path : String) :
    Prop where
  /-- It is not that of a page of the unit. -/
  own : ∀ page ∈ (unitResult root settings cut.own).pages, clientPath settings page ≠ path
  /-- It is not that of a derived address. -/
  inline : ∀ name ∈ cut.names, pdaPath settings name ≠ path

theorem avoids_of_ownModule? (cut : Cut units content) {module : String}
    (hmodule : ownModule? content = some module)
    (hown : settings.libraryName ++ "/" ++ module ≠ path)
    (hinline : ∀ name, pdaPath settings name ≠ path) : cut.Avoids root settings path where
  own := by
    intro page hpage
    rw [← cut.content_own] at hmodule
    rwa [clientPath, path_of_ownModule? hmodule hpage]
  inline name _ := hinline name

theorem Agrees.others {units' : List ClientUnit} {cut : Cut units content}
    {cut' : Cut units' content'} (h : cut.Agrees cut') :
    List.Forall₂ ClientUnit.Matches cut.others cut'.others := by
  have hnone : ∀ units units' : List ClientUnit, List.Forall₂ ClientUnit.Matches units units' →
      List.Forall₂ ClientUnit.Matches (units.filter fun part => part.inlinePda?.isNone)
        (units'.filter fun part => part.inlinePda?.isNone) := by
    intro units units'
    refine fun h => List.rel_filter (fun part part' hmatches => ?_) h
    simp only [hmatches.inlinePda?]
  -- What is no derived address introduced by an instruction is none of the names in question.
  have hapart : ∀ (names : List String) (units : List ClientUnit),
      (units.filter (·.isApart names)).filter (fun part => part.inlinePda?.isNone) =
        units.filter fun part => part.inlinePda?.isNone := by
    intro names units
    rw [List.filter_filter]
    refine List.filter_congr fun part _ => ?_
    cases hpda : part.inlinePda? <;> simp [ClientUnit.isApart, hpda]
  have hback := hnone _ _ h.back
  rw [hapart, hapart] at hback
  rw [Cut.others, Cut.others, List.filter_append, List.filter_append]
  exact List.rel_append (hnone _ _ h.front) hback

/-- At a path that the unit avoids, neither the unit has a page nor what it introduces. -/
theorem Avoids.pagesAt_own {cut : Cut root.units content} (h : cut.Avoids root settings path) :
    pagesAt settings path
      (unitPages root settings (cut.own :: cut.inline.map cut.own.introduced)) = [] := by
  rw [pagesAt_eq_nil_iff]
  intro page hpage
  obtain ⟨part, hpart, hpage⟩ := List.mem_flatMap.mp hpage
  rcases List.mem_cons.mp hpart with rfl | hpart
  · exact h.own page hpage
  · obtain ⟨pda, hpda, rfl⟩ := List.mem_map.mp hpart
    rw [path_of_content_pda rfl hpage]
    exact h.inline pda.name (List.mem_map_of_mem hpda)

/-- At a path of no derived address of the names, those may be left out. -/
theorem pagesAt_isApart {names : List String}
    (hnames : ∀ name ∈ names, pdaPath settings name ≠ path) (units : List ClientUnit) :
    pagesAt settings path (unitPages root settings (units.filter (·.isApart names))) =
      pagesAt settings path (unitPages root settings units) := by
  induction units with
  | nil => rfl
  | cons part units ih =>
    rw [unitPages, unitPages] at ih ⊢
    rw [List.flatMap_cons, pagesAt_append, ← ih]
    by_cases hapart : part.isApart names = true
    · rw [List.filter_cons_of_pos hapart, List.flatMap_cons, pagesAt_append]
    · have hnone : pagesAt settings path (unitResult root settings part).pages = [] := by
        rw [pagesAt_eq_nil_iff]
        intro page hpage
        -- Only a derived address of one of the names is left out, and it has no other page.
        cases hpda : part.inlinePda? with
        | none => simp [ClientUnit.isApart, hpda] at hapart
        | some pda =>
          rw [path_of_content_pda (content_of_inlinePda? hpda) hpage]
          apply hnames
          simpa [ClientUnit.isApart, hpda] using hapart
      rw [List.filter_cons_of_neg hapart, hnone, List.nil_append]

/-- **The pages of a path that the unit avoids** are those in front of the unit and behind it, apart
from derived addresses of some names whose path it is not. -/
theorem pagesAt_of_avoids (cut : Cut root.units content) (h : cut.Avoids root settings path)
    (hindex : indexPath settings ≠ path) {names : List String}
    (hnames : ∀ name ∈ names, pdaPath settings name ≠ path) :
    pagesAt settings path (clientPages (unitResults root settings) settings) =
      pagesAt settings path ([encoderPage] ++ (unitPages root settings cut.front ++
        unitPages root settings (cut.back.filter (·.isApart names)))) := by
  have hlibrary : ∀ paths,
      pagesAt settings path [libraryIndex paths settings.libraryName] = [] := by
    intro paths
    rw [pagesAt_eq_nil_iff]
    intro page hpage
    obtain rfl := List.mem_singleton.mp hpage
    exact hindex
  -- The pages of the cut unit stand between those in front and those behind, and fall out.
  have hresults : (unitResults root settings).flatMap UnitResult.pages =
      unitPages root settings cut.front ++
        (unitPages root settings (cut.own :: cut.inline.map cut.own.introduced) ++
          unitPages root settings cut.back) := by
    have hmap : (unitResults root settings).flatMap UnitResult.pages =
        unitPages root settings root.units := List.flatMap_map ..
    rw [hmap, unitPages]
    conv_lhs => rw [cut.units_eq]
    rw [← List.cons_append, List.flatMap_append, List.flatMap_append]
    rfl
  rw [clientPages, hresults, ← List.singleton_append]
  simp only [pagesAt_append, hlibrary, h.pagesAt_own, pagesAt_isApart hnames, List.append_nil,
    List.nil_append]

end Cut

/-! ## Two descriptions -/

/-- **Units do not interfere.** Let two descriptions differ in one account or one instruction, which
may be generated in both or not. The other units, those of derived addresses apart that instructions
introduce, fail alike and report the same, and every file is the same in both clients whose path is
neither that of a page of the unit or of a derived address that it introduces nor that of the page
of the library. -/
theorem same_client_of_varies {content content' : UnitContent}
    (h : root.Varies root' content content') (settings : Settings) :
    ∃ (cut : Cut root.units content) (cut' : Cut root'.units content'),
      cut.front.length = cut'.front.length ∧
      (cut.others.map (unitResult root settings)).filterMap UnitResult.failure? =
        (cut'.others.map (unitResult root' settings)).filterMap UnitResult.failure? ∧
      (cut.others.map (unitResult root settings)).flatMap UnitResult.diagnostics =
        (cut'.others.map (unitResult root' settings)).flatMap UnitResult.diagnostics ∧
      ∀ path, cut.Avoids root settings path → cut'.Avoids root' settings path →
        indexPath settings ≠ path →
          (generateClient root settings).files[path]? =
            (generateClient root' settings).files[path]? := by
  obtain ⟨cut, cut', hagrees⟩ := exists_cuts_of_varies h
  have hprograms := h.sameBase
  refine ⟨cut, cut', hagrees.front.length_eq,
    failures_eq_of_matches hprograms settings hagrees.others,
    diagnostics_eq_of_matches hprograms settings hagrees.others, ?_⟩
  intro path havoids havoids' hindex
  -- Whichever instruction introduces a derived address, its page has the same path.
  have hnames : ∀ name ∈ cut.names ++ cut'.names, pdaPath settings name ≠ path := by
    intro name hname
    rcases List.mem_append.mp hname with hname | hname
    · exact havoids.inline name hname
    · exact havoids'.inline name hname
  have hpages : pagesAt settings path (clientPages (unitResults root settings) settings) =
      pagesAt settings path (clientPages (unitResults root' settings) settings) := by
    rw [cut.pagesAt_of_avoids havoids hindex hnames, cut'.pagesAt_of_avoids havoids' hindex hnames,
      pages_eq_of_matches hprograms settings hagrees.front,
      pages_eq_of_matches hprograms settings hagrees.back]
  simp only [generateClient, h.name_eq]
  exact getElem?_clientFiles_congr hpages _

/-- An instruction that introduces a safe. -/
def openSafe : Instruction where
  name := "open"
  docs := []
  accounts := [safeAccount "authority" none,
    safeAccount "safe" (some (.pda ⟨.inline (safe none), safeBindings⟩))]
  arguments := []
  discriminators := []

/-- An instruction of that name with an argument of a type that is not declared. -/
def openStuck : Instruction :=
  { openSafe with accounts := [], arguments := [⟨"key", .link "key" none, [], none⟩] }

/-- A later instruction that has the safe as well. -/
def closeSafe : Instruction := { openSafe with name := "close" }

/-- A program with a type and two instructions. -/
def bank (first : Instruction) : Root where
  standard := "codama"
  version := "1.0.0"
  program := { Idl.Program.ofTypes "bank"
      [⟨"coin", .struct [.plain "value" (.littleNumber .u8)], []⟩] with
    publicKey := "11111111111111111111111111111111"
    instructions := [first, closeSafe] }
  additionalPrograms := []

/-- Where the first instruction cannot be generated, the second one introduces the safe. The other
units fail alike, and the files of the second instruction, the program and the type are there and
stay what they are. -/
theorem same_client_of_varies_bank :
    (generateClient (bank openSafe) .default).isComplete = true ∧
    (generateClient (bank openStuck) .default).isComplete = false ∧
    (∃ (cut : Cut (bank openSafe).units (.instruction openSafe))
      (cut' : Cut (bank openStuck).units (.instruction openStuck)),
        (cut.others.map (unitResult (bank openSafe) .default)).filterMap UnitResult.failure? =
          (cut'.others.map (unitResult (bank openStuck) .default)).filterMap UnitResult.failure?) ∧
    ∀ path ∈ ["lib/instructions/close.dart", "lib/programs/bank.dart", "lib/types/coin.dart"],
      ((generateClient (bank openSafe) .default).files[path]?).isSome = true ∧
        (generateClient (bank openSafe) .default).files[path]? =
          (generateClient (bank openStuck) .default).files[path]? := by
  have hwritten : ∀ path ∈ ["lib/instructions/close.dart", "lib/programs/bank.dart",
      "lib/types/coin.dart"], ((generateClient (bank openSafe) .default).files[path]?).isSome =
        true := by
    decide +kernel
  have hvaries : (bank openSafe).Varies (bank openStuck) (.instruction openSafe)
      (.instruction openStuck) :=
    .main (bank openSafe) (.instruction (bank openSafe).program [] [closeSafe] _ _)
  obtain ⟨cut, cut', -, hfailures, -, hfiles⟩ := same_client_of_varies hvaries .default
  refine ⟨by decide +kernel, by decide +kernel, ⟨cut, cut', hfailures⟩, fun path hpath => ?_⟩
  refine ⟨hwritten path hpath, ?_⟩
  -- The first instruction has its page elsewhere, and derived addresses have a folder of their own.
  have hplaces : path ≠ "lib/instructions/open.dart" ∧ path ≠ indexPath .default ∧
      path.toList.take 8 ≠ "lib/pdas".toList := by
    revert path
    decide
  obtain ⟨hown, hindex, hfolder⟩ := hplaces
  have hinline : ∀ name, pdaPath .default name ≠ path := by
    rintro name rfl
    refine hfolder ?_
    have hlibrary : Settings.default.libraryName = "lib" := rfl
    simp [pdaPath, generatedModule, hlibrary]
  exact hfiles path (cut.avoids_of_ownModule? rfl hown.symm hinline)
    (cut'.avoids_of_ownModule? rfl hown.symm hinline) hindex.symm

end DartClient
