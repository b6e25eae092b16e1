import DartClient.Proofs.Client.Places
import DartClient.Proofs.Page.Written

/-!
# Every unit is accounted for

A client is made in one go over its units: each contributes its pages and what could not be
expressed on them, or else a failure under its name, and nothing of a unit is lost or moved. Behind
the page with the encoders and the pages of the units stands the page of the library. The table of
files is filled in this order, so a later page replaces an earlier one of the same path. No page
stands behind that of the library, so its file is always there, and its text exports every other
path once, since no path of a unit has a line end.

## Main definitions

* `Contributes`: what units contribute to a client, unit by unit.
* `Client.StandsFor`: the files of a client are the texts of the last pages of their paths.

## Main results

* `contributes_units`: what a client gathers is what its units contribute.
* `standsFor_clientFiles`: the files of a client are the texts of the last pages of their paths.
* `client_accounts_for_units`: a client accounts for every unit, every file and every export.
-/

namespace DartClient

open Idl (Root)

/-- What units contribute to a client, in their order: each of them either its pages and what could
not be expressed on them, or one failure, which carries its name. -/
inductive Contributes (root : Root) (settings : Settings) :
    List ClientUnit → List Page → List Diagnostic → List UnitFailure → Prop
  | nil : Contributes root settings [] [] [] []
  | generated {part : ClientUnit} {units : List ClientUnit} {rendering : Rendering}
      {pages : List Page} {diagnostics : List Diagnostic} {failures : List UnitFailure}
      (h : part.generate (.ofRoot root) settings = .ok rendering)
      (hrest : Contributes root settings units pages diagnostics failures) :
      Contributes root settings (part :: units) (rendering.pages ++ pages)
        (rendering.diagnostics ++ diagnostics) failures
  | failed {part : ClientUnit} {units : List ClientUnit} {error : ClientError}
      {pages : List Page} {diagnostics : List Diagnostic} {failures : List UnitFailure}
      (h : part.generate (.ofRoot root) settings = .error error)
      (hrest : Contributes root settings units pages diagnostics failures) :
      Contributes root settings (part :: units) pages diagnostics (⟨part.name, error⟩ :: failures)

/-- The files of a client are the description of the package and, for every path of some pages, the
text of the last page of that path. -/
structure Client.StandsFor (client : Client) (settings : Settings) (program : String)
    (pages : List Page) : Prop where
  mem_files : ∀ path, path ∈ client.files ↔ path = pubspecPath ∨
    ∃ page ∈ pages, settings.libraryName ++ "/" ++ page.path = path
  package : client.files[pubspecPath]? = some (pubspec settings program)
  last : ∀ front page back, pages = front ++ page :: back →
    (∀ later ∈ back, later.path ≠ page.path) →
      ∃ text, client.files[settings.libraryName ++ "/" ++ page.path]? = some text ∧
        page.WrittenAs settings.aliases text

/-! ## Units -/

/-- **What a client gathers is what its units contribute.** -/
theorem contributes_units (root : Root) (settings : Settings) (units : List ClientUnit) :
    Contributes root settings units
      ((units.map (unitResult root settings)).flatMap UnitResult.pages)
      ((units.map (unitResult root settings)).flatMap UnitResult.diagnostics)
      ((units.map (unitResult root settings)).filterMap UnitResult.failure?) := by
  induction units with
  | nil => exact .nil
  | cons part units ih =>
    rw [List.map_cons, List.flatMap_cons, List.flatMap_cons, List.filterMap_cons]
    cases hresult : part.generate (.ofRoot root) settings with
    | ok rendering =>
      have hgenerated := Contributes.generated hresult ih
      simpa only [unitResult, UnitResult.pages, UnitResult.diagnostics, UnitResult.failure?,
        hresult] using hgenerated
    | error error =>
      have hfailed := Contributes.failed hresult ih
      simpa only [unitResult, UnitResult.pages, UnitResult.diagnostics, UnitResult.failure?,
        hresult, List.nil_append] using hfailed

/-! ## Files -/

/-- What a table made of a list holds under a key is the last entry of that key. -/
theorem getElem?_ofList_of_last {α : Type} {front back : List (String × α)} {key : String}
    {value : α} (hback : ∀ entry ∈ back, entry.1 ≠ key) :
    (Std.ExtTreeMap.ofList (front ++ (key, value) :: back))[key]? = some value := by
  have hbehind : (back.map Prod.fst).contains key = false := by
    rw [Bool.eq_false_iff, ne_eq, List.contains_iff_mem, List.mem_map]
    rintro ⟨entry, hentry, hkey⟩
    exact hback entry hentry hkey
  rw [Std.ExtTreeMap.ofList_eq_insertMany_empty, Std.ExtTreeMap.insertMany_append,
    Std.ExtTreeMap.insertMany_cons,
    Std.ExtTreeMap.getElem?_insertMany_list_of_contains_eq_false hbehind,
    Std.ExtTreeMap.getElem?_insert_self]

/-- **The files of a client are the texts of the last pages of their paths.** -/
theorem standsFor_clientFiles {client : Client} {settings : Settings} {program : String}
    {pages : List Page} (hfiles : client.files = clientFiles pages settings program) :
    client.StandsFor settings program pages where
  mem_files path := by
    rw [hfiles]
    exact mem_clientFiles
  package := by
    rw [hfiles, clientFiles, Std.ExtTreeMap.getElem?_insert_self]
  last := by
    rintro front page back rfl hback
    have hpubspec := pubspecPath_ne_clientPath settings page
    rw [clientPath] at hpubspec
    refine ⟨_, ?_, page.writtenAs_render settings.aliases⟩
    rw [hfiles, clientFiles, Std.ExtTreeMap.getElem?_insert, if_neg (by simpa using hpubspec),
      List.map_append, List.map_cons]
    refine getElem?_ofList_of_last fun entry hentry => ?_
    obtain ⟨later, hlater, rfl⟩ := List.mem_map.mp hentry
    exact fun h => hback later hlater ((String.append_right_inj _).mp h)

/-- In front of the page of the library, the last page stands in its file. -/
theorem Client.StandsFor.exists_text_of_getLast? {client : Client} {settings : Settings}
    {program : String} {pages : List Page} {page index : Page}
    (h : client.StandsFor settings program (pages ++ [index])) (hlast : pages.getLast? = some page)
    (hindex : index.path ≠ page.path) :
    ∃ text, client.files[settings.libraryName ++ "/" ++ page.path]? = some text ∧
      page.WrittenAs settings.aliases text := by
  obtain ⟨front, rfl⟩ := List.getLast?_eq_some_iff.mp hlast
  refine h.last front page [index] ?_ (List.forall_mem_singleton.mpr hindex)
  rw [List.append_assoc, List.singleton_append]

/-- No path of a unit has a line end. -/
theorem oneLine_path_of_mem_pages {root : Root} {settings : Settings} {page : Page}
    (hpage : page ∈ (root.units.map (unitResult root settings)).flatMap UnitResult.pages) :
    Text.OneLine page.path := by
  obtain ⟨result, hresult, hpage⟩ := List.mem_flatMap.mp hpage
  obtain ⟨part, hpart, rfl⟩ := List.mem_map.mp hresult
  unfold UnitResult.pages at hpage
  split at hpage
  case h_1 rendering hgenerate =>
    -- The path of a page of a unit is made of words of names.
    obtain ⟨program, -, hpart⟩ := List.mem_flatMap.mp hpart
    obtain ⟨folder, name, hfiles, hpath⟩ := files_of_mem_pages
      (liesIn_of_mem_units hpart).program?_eq (declares_of_mem_units hpart) hgenerate hpage
    rw [hpath]
    exact hfiles.oneLine
  case h_2 => cases hpage

/-- **A client accounts for every unit.** Its failures, what could not be expressed and the pages
are what the units contribute, each in its turn. Its files are those of the page with the encoders,
of the pages of the units and of the page of the library, the last of several pages of one path. In
the file of the library stand the exports of the paths of all others. -/
theorem client_accounts_for_units (root : Root) (settings : Settings) : ∃ pages index,
    Contributes root settings root.units pages (generateClient root settings).diagnostics
      (generateClient root settings).failures ∧
    index.path = settings.libraryName ++ ".dart" ∧
    (generateClient root settings).StandsFor settings root.program.name
      (encoderPage :: pages ++ [index]) ∧
    ∃ text, (generateClient root settings).files[settings.libraryName ++ "/" ++ index.path]? =
        some text ∧
      IsIndexOf text index.path ((encoderPage :: pages).map Page.path) := by
  let pages := (root.units.map (unitResult root settings)).flatMap UnitResult.pages
  let paths := (encoderPage :: pages).map Page.path
  have hpaths : ∀ path ∈ paths, Text.OneLine path := by
    rw [List.forall_mem_map, List.forall_mem_cons]
    exact ⟨by decide, fun page hpage => oneLine_path_of_mem_pages hpage⟩
  have hfiles : (generateClient root settings).StandsFor settings root.program.name
      (encoderPage :: pages ++ [libraryIndex paths settings.libraryName]) :=
    standsFor_clientFiles rfl
  -- Nothing stands behind the page of the library.
  obtain ⟨text, htext, hwritten⟩ := hfiles.last _ _ [] rfl (List.forall_mem_nil _)
  refine ⟨pages, _, contributes_units root settings root.units, rfl, hfiles, text, htext, ?_⟩
  rw [hwritten.eq_render]
  exact isIndexOf_libraryIndex hpaths settings.libraryName settings.aliases

/-- The pages that units contribute are determined. -/
theorem Contributes.pages_eq {root : Root} {settings : Settings} {units : List ClientUnit}
    {pages : List Page} {diagnostics : List Diagnostic} {failures : List UnitFailure}
    (h : Contributes root settings units pages diagnostics failures) :
    pages = (units.map (unitResult root settings)).flatMap UnitResult.pages := by
  induction h with
  | nil => rfl
  | generated hgenerate _ ih =>
    rw [List.map_cons, List.flatMap_cons, ← ih, unitResult, UnitResult.pages, hgenerate]
  | failed hgenerate _ ih =>
    rw [List.map_cons, List.flatMap_cons, ← ih, unitResult, UnitResult.pages, hgenerate,
      List.nil_append]

/-- A program with a type that links to nothing, between two types whose files have one path. -/
def twins : Root where
  standard := "codama"
  version := "1.0.0"
  program := { Idl.Program.ofTypes "vault" [⟨"coin", .littleNumber .u8, []⟩,
      ⟨"lost", .defined "nothing", []⟩, ⟨"Coin", .string .utf8, []⟩] with
    publicKey := "11111111111111111111111111111111" }
  additionalPrograms := []

/-- The link fails alone, the file of the two types is that of the second one, and the library
exports it once. -/
theorem client_accounts_for_units_twins :
    (generateClient twins .default).failures.map (·.unit) = ["vault::types::lost"] ∧
    (∃ text, (generateClient twins .default).files["lib/types/coin.dart"]? = some text ∧
      "typedef Coin = String;".toList ∈ Text.physicalLines text) ∧
    ∃ text, (generateClient twins .default).files["lib/lib.dart"]? = some text ∧
      exportDirectives text = ["export 'programs/vault.dart';", "export 'shared.dart';",
        "export 'types/coin.dart';"].map String.toList := by
  obtain ⟨pages, index, hcontributes, hindex, hfiles, text, htext, hexports⟩ :=
    client_accounts_for_units twins .default
  obtain rfl := hcontributes.pages_eq
  have hlibrary : Settings.default.libraryName ++ ".dart" = "lib.dart" := rfl
  rw [hlibrary] at hindex
  -- The texts of all files are too long to be computed, but not the pages that they are made of.
  have hlast : ((encoderPage :: (twins.units.map (unitResult twins .default)).flatMap
      UnitResult.pages).getLast?.any fun page => page.path == "types/coin.dart" &&
        (Text.pieces (Text.trimEnd page.body)).contains "typedef Coin = String;".toList) = true := by
    decide +kernel
  have hpaths : (encoderPage :: (twins.units.map (unitResult twins .default)).flatMap
      UnitResult.pages).map Page.path =
        ["shared.dart", "programs/vault.dart", "types/coin.dart", "types/coin.dart"] := by
    decide +kernel
  have hfailures : (generateClient twins .default).failures.map (·.unit) =
      ["vault::types::lost"] := by decide +kernel
  generalize (twins.units.map (unitResult twins .default)).flatMap UnitResult.pages = pages
    at hlast hpaths hfiles hexports
  refine ⟨hfailures, ?_, text, by rwa [hindex] at htext, ?_⟩
  · obtain ⟨page, hget, hpage⟩ := (Option.any_eq_true _ _).mp hlast
    rw [Bool.and_eq_true, beq_iff_eq, List.contains_iff_mem] at hpage
    obtain ⟨hpath, hcoin⟩ := hpage
    have hother : index.path ≠ page.path := by
      rw [hindex, hpath]
      decide
    obtain ⟨text, htext, hwritten⟩ := hfiles.exists_text_of_getLast? hget hother
    rw [hpath] at htext
    refine ⟨text, htext, ?_⟩
    rw [hwritten.lines]
    exact List.mem_append_right _ hcoin
  · rw [hpaths, hindex] at hexports
    have hmem : ∀ path, path ∈ ["programs/vault.dart", "shared.dart", "types/coin.dart"] ↔
        path ∈ ["shared.dart", "programs/vault.dart", "types/coin.dart", "types/coin.dart"] ∧
          path ≠ "lib.dart" := by
      intro path
      simp only [List.mem_cons, List.not_mem_nil, or_false]
      constructor
      · rintro (rfl | rfl | rfl) <;> decide
      · rintro ⟨rfl | rfl | rfl | rfl, -⟩ <;> decide
    exact hexports.exportDirectives_eq hmem (by decide +kernel)

end DartClient
