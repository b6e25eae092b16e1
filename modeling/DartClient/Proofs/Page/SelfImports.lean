import DartClient.Proofs.Page.Origins
import DartClient.Proofs.Page.Paths

/-!
# How a page imports itself

Writing a page down drops the module that stands at its own path, drops the symbols that the page
defines from all other modules, and writes each path from the root of the library as seen from the
page. Modules that get one name on the way are put together. Nothing else is lost, and nothing is
added.

What is written down leads to where it was meant to lead: followed from the folder of the page, a
path from the root is followed from the root, and if all its parts are names it is the same path
again. But a path may have dots, or may be relative to the page from the beginning. Such a path can
mean the page itself and yet be another text than its path, so that it is not dropped. Apart from
such paths no page imports itself.

## Main definitions

* `IsFromRoot`: a module is told by its path from the root.
* `IsNormal`: all parts of a path are names.
* `Page.meantPath?`: the file that a module of a page means.
* `Page.writtenPath?`: the file that an import leads to as it is written down.

## Main results

* `Page.containsModule_finalImports`: the entries that are written down.
* `Page.writtenPath?_relativeModule`: an import that is written down leads to what was meant.
* `Page.exists_own_iff`: when a page imports itself.
* `Page.finalImports_spec`: the imports that are written down, and where they lead.
* `Page.finalImports_detour`: a page that imports itself by a detour keeps the import.
-/

namespace DartClient

/-! ## Paths from the root -/

/-- A module is told by its path from the root: it is no alias, no module of the language or of a
package, and not relative already. -/
def IsFromRoot (aliases : Aliases) (module : String) : Prop :=
  module ∉ aliases ∧
    ∀ start ∈ ["dart:", "package:", "./", "../"], ¬ start.toList <+: module.toList

instance (aliases : Aliases) (module : String) : Decidable (IsFromRoot aliases module) :=
  inferInstanceAs (Decidable (module ∉ aliases ∧
    ∀ start ∈ ["dart:", "package:", "./", "../"], ¬ start.toList <+: module.toList))

theorem isLibraryPath_iff {module : String} {aliases : Aliases} :
    isLibraryPath module aliases = true ↔ IsFromRoot aliases module := by
  simp [isLibraryPath, IsFromRoot, String.startsWith_string_iff, Bool.eq_false_iff, and_assoc]

theorem IsFromRoot.relativeModule_eq {module : String} {aliases : Aliases}
    (h : IsFromRoot aliases module) (path : String) : relativeModule module path aliases =
      String.join (List.replicate (path.toList.count '/') "../") ++ module :=
  if_pos (isLibraryPath_iff.mpr h)

/-- All other modules are written as they are. -/
theorem relativeModule_of_not_isFromRoot {module : String} {aliases : Aliases}
    (h : ¬ IsFromRoot aliases module) (path : String) :
    relativeModule module path aliases = module :=
  if_neg fun hlibrary => h (isLibraryPath_iff.mp hlibrary)

/-- A path from the root is neither an alias nor a module of the language or of a package. -/
theorem IsFromRoot.not_outside {module : String} {aliases : Aliases} (h : IsFromRoot aliases module) :
    ¬ (module ∈ aliases ∨ "dart:".toList <+: module.toList ∨
      "package:".toList <+: module.toList) := by
  obtain ⟨halias, hstarts⟩ := h
  rintro (hmem | hdart | hpackage)
  · exact halias hmem
  · exact hstarts _ (by decide) hdart
  · exact hstarts _ (by decide) hpackage

/-- All parts of a path are names: none is empty, and none stands for another folder. -/
def IsNormal (path : String) : Prop :=
  ∀ part ∈ pathParts path, part ≠ [] ∧ part ≠ ['.'] ∧ part ≠ ['.', '.']

instance (path : String) : Decidable (IsNormal path) :=
  inferInstanceAs (Decidable (∀ part ∈ pathParts path, part ≠ [] ∧ part ≠ ['.'] ∧ part ≠ ['.', '.']))

theorem IsNormal.isPlain {path : String} (h : IsNormal path) : IsPlain path :=
  fun part hpart => (h part hpart).2

namespace Page

variable {page : Page} {aliases : Aliases} {module symbol : String}

/-- The entries are the modules other than the page itself of which something is left, under their
names as seen from the page. -/
theorem containsModule_finalImports : (page.finalImports aliases).containsModule module = true ↔
    ∃ key, relativeModule key page.path aliases = module ∧ page.path ≠ key ∧
      (page.imports.Whole key ∨ ∃ symbol, page.ShowsFrom key symbol) := by
  have hproper : (page.finalImports aliases).Proper := ImportMap.proper_mapModules _
  rw [hproper.containsModule_iff_exists]
  simp only [contains_finalImports]
  constructor
  · rintro ⟨symbol, key, hkey, ⟨hcontains, hpath⟩, hleft⟩
    refine ⟨key, hkey, hpath, ?_⟩
    by_cases hwhole : page.imports.Whole key
    · exact .inl hwhole
    · exact .inr ⟨symbol, ImportMap.shownFrom_iff.mpr ⟨hcontains, hwhole⟩, hpath,
        hleft.resolve_left hwhole⟩
  · rintro ⟨key, hkey, hpath, hwhole | ⟨symbol, hshown, -, hdefines⟩⟩
    · -- A whole module brings any symbol, so one will do.
      exact ⟨"", key, hkey, ⟨hwhole.contains "", hpath⟩, .inl hwhole⟩
    · exact ⟨symbol, key, hkey, ⟨(ImportMap.shownFrom_iff.mp hshown).1, hpath⟩, .inr hdefines⟩

/-! ### Where imports lead -/

/-- The file of the library that an import of a page leads to as it is written down. Aliases and
modules of the language and of packages lead to none. -/
def writtenPath? (page : Page) (aliases : Aliases) (module : String) : Option String :=
  if module ∈ aliases ∨ "dart:".toList <+: module.toList ∨ "package:".toList <+: module.toList then
    none
  else followedPath? page.path module

/-- The file of the library that a module means before the page is written down. A path from the
root is followed from there. -/
def meantPath? (page : Page) (aliases : Aliases) (module : String) : Option String :=
  if IsFromRoot aliases module then followedPath? "" module else page.writtenPath? aliases module

/-- A path from the root whose parts are names means the file at that path. -/
theorem meantPath?_of_isNormal (hrooted : IsFromRoot aliases module) (hnormal : IsNormal module) :
    page.meantPath? aliases module = some module := by
  rw [meantPath?, if_pos hrooted, followedPath?_root hnormal.isPlain]

/-- **What is written down leads to what was meant**, unless it reads as an alias. -/
theorem writtenPath?_relativeModule (hpath : IsPlain page.path)
    (halias : relativeModule module page.path aliases ∉ aliases) :
    page.writtenPath? aliases (relativeModule module page.path aliases) =
      page.meantPath? aliases module := by
  rw [meantPath?]
  split
  case isTrue hrooted =>
    rw [hrooted.relativeModule_eq] at halias ⊢
    rw [writtenPath?, if_neg (not_or.mpr ⟨halias, ?_⟩), followedPath?_up hpath]
    -- Steps up begin with dots, and without any the path is as it was.
    cases page.path.toList.count '/' with
    | zero => simpa using (not_or.mp hrooted.not_outside).2
    | succ count => simp [List.replicate_succ]
  case isFalse hother => rw [relativeModule_of_not_isFromRoot hother]

/-- **When a page imports itself**: something is left of a module that means the page, but is called
otherwise. -/
theorem exists_own_iff (hpath : IsPlain page.path) :
    (∃ module, (page.finalImports aliases).containsModule module = true ∧
      page.writtenPath? aliases module = some page.path) ↔
      ∃ key, page.path ≠ key ∧ (page.imports.Whole key ∨ ∃ symbol, page.ShowsFrom key symbol) ∧
        relativeModule key page.path aliases ∉ aliases ∧
        page.meantPath? aliases key = some page.path := by
  simp only [containsModule_finalImports]
  constructor
  · rintro ⟨_, ⟨key, rfl, hkey, hleft⟩, hown⟩
    -- What reads as an alias leads to no file, and this one does.
    have halias : relativeModule key page.path aliases ∉ aliases := by
      intro hmem
      rw [writtenPath?, if_pos (.inl hmem)] at hown
      cases hown
    exact ⟨key, hkey, hleft, halias, writtenPath?_relativeModule hpath halias ▸ hown⟩
  · rintro ⟨key, hkey, hleft, halias, hown⟩
    exact ⟨_, ⟨key, rfl, hkey, hleft⟩, (writtenPath?_relativeModule hpath halias).trans hown⟩

/-- **The imports of a page as they are written down.** No symbol that the page defines is shown. A
module is whole if and only if a whole module other than the page gets its name; any other module
shows exactly the symbols that the page shows of the modules that get its name, and all that the
page shows is kept. There is an entry for a module if and only if something is left of one that gets
its name. An entry leads to the page itself if and only if something is left of a module that means
the page under another name than its path; a path from the root whose parts are names does not. Such
a path leads back to where it was, from every page whose path is one. -/
theorem finalImports_spec (page : Page) (aliases : Aliases) :
    (∀ module symbol, (page.finalImports aliases).ShownFrom module symbol →
      symbol ∉ page.defines) ∧
    (∀ module, (page.finalImports aliases).Whole module ↔
      ∃ key, relativeModule key page.path aliases = module ∧
        page.imports.Whole key ∧ page.path ≠ key) ∧
    (∀ module symbol, (page.finalImports aliases).ShownFrom module symbol ↔
      ¬ (page.finalImports aliases).Whole module ∧
        ∃ key, relativeModule key page.path aliases = module ∧ page.ShowsFrom key symbol) ∧
    (∀ key symbol, page.ShowsFrom key symbol →
      (page.finalImports aliases).contains (relativeModule key page.path aliases) symbol = true) ∧
    (∀ module, (page.finalImports aliases).containsModule module = true ↔
      ∃ key, relativeModule key page.path aliases = module ∧ page.path ≠ key ∧
        (page.imports.Whole key ∨ ∃ symbol, page.ShowsFrom key symbol)) ∧
    (IsPlain page.path →
      ((∃ module, (page.finalImports aliases).containsModule module = true ∧
        page.writtenPath? aliases module = some page.path) ↔
        ∃ key, page.path ≠ key ∧ (page.imports.Whole key ∨ ∃ symbol, page.ShowsFrom key symbol) ∧
          relativeModule key page.path aliases ∉ aliases ∧
          page.meantPath? aliases key = some page.path)) ∧
    (∀ key, IsFromRoot aliases key → IsNormal key → page.path ≠ key →
      page.meantPath? aliases key ≠ some page.path) ∧
    ∀ module path, IsFromRoot aliases module → IsNormal module → IsNormal path →
      followedPath? path (relativeModule module path aliases) = some module := by
  refine ⟨fun module symbol hshown => ?_, fun module => whole_finalImports,
    fun module symbol => shownFrom_finalImports_iff, fun key symbol hshows => ?_,
    fun module => containsModule_finalImports, exists_own_iff,
    fun key hrooted hnormal hkey hown => ?_,
    fun module path hrooted hnormal hpath =>
      followedPath?_relativeModule hpath.isPlain (isLibraryPath_iff.mpr hrooted) hnormal.isPlain⟩
  · obtain ⟨-, key, -, hshows⟩ := shownFrom_finalImports_iff.mp hshown
    exact hshows.2.2
  · obtain ⟨hshown, hpath, hdefines⟩ := hshows
    exact contains_finalImports.mpr
      ⟨key, rfl, ⟨(ImportMap.shownFrom_iff.mp hshown).1, hpath⟩, .inr hdefines⟩
  · rw [meantPath?_of_isNormal hrooted hnormal] at hown
    exact hkey (Option.some.inj hown).symm

/-- The page of a type that imports itself, another type and all of a package. -/
def vault : Page where
  path := "types/vault.dart"
  imports := (((ImportMap.empty.add "types/vault.dart" ["Vault", "BVault"]).add
    "types/vault/limits.dart" ["Limits", "Vault"]).addModule "package:solana/solana.dart")
  defines := ["Vault", "BVault"]
  body := "class Vault \x7b\x7d\n"

/-- The class that the page defines is shown of no module, what is left of the other modules is kept
under paths that lead back to them, and no entry leads to the page. -/
theorem finalImports_spec_vault :
    (vault.finalImports ∅).contains "../types/vault/limits.dart" "Limits" = true ∧
      ¬ (vault.finalImports ∅).ShownFrom "../types/vault/limits.dart" "Vault" ∧
      followedPath? vault.path "../types/vault/limits.dart" = some "types/vault/limits.dart" ∧
      (vault.finalImports ∅).Whole "package:solana/solana.dart" ∧
      ¬ ∃ module, (vault.finalImports ∅).containsModule module = true ∧
        vault.writtenPath? ∅ module = some vault.path := by
  obtain ⟨hdefines, hwhole, -, hkept, -, hown, hnormal, hfollowed⟩ := finalImports_spec vault ∅
  have hrooted : IsFromRoot ∅ "types/vault/limits.dart" :=
    ⟨Std.ExtTreeMap.not_mem_empty, by decide⟩
  have hother : ¬ IsFromRoot ∅ "package:solana/solana.dart" :=
    fun h => h.2 "package:" (by decide) (by decide)
  have hlimits : relativeModule "types/vault/limits.dart" vault.path ∅ =
      "../types/vault/limits.dart" := hrooted.relativeModule_eq _
  refine ⟨?_, fun h => hdefines _ _ h (by decide), ?_, ?_, ?_⟩
  · rw [← hlimits]
    apply hkept
    refine ⟨ImportMap.shownFrom_iff.mpr ⟨?_, ?_⟩, by decide, by decide⟩
    · simp [vault]
    · simp [vault]
  · rw [← hlimits]
    exact hfollowed _ _ hrooted (by decide) (by decide)
  · exact (hwhole _).mpr
      ⟨_, relativeModule_of_not_isFromRoot hother _, by simp [vault], by decide⟩
  · -- What is imported under another name is a path from the root or a package.
    rw [hown (by decide)]
    rintro ⟨key, hkey, hleft, -, hmeant⟩
    have himported : ∃ symbol, vault.imports.contains key symbol = true := by
      rcases hleft with hwhole | ⟨symbol, hshown, -⟩
      · exact ⟨"", hwhole.contains ""⟩
      · exact ⟨symbol, (ImportMap.shownFrom_iff.mp hshown).1⟩
    obtain ⟨symbol, hsymbol⟩ := himported
    simp only [vault, ImportMap.contains_addModule, ImportMap.contains_add,
      ImportMap.contains_empty] at hsymbol
    rcases hsymbol with ((h | ⟨rfl, -⟩) | ⟨rfl, -⟩) | rfl
    · cases h
    · exact hkey rfl
    · exact hnormal _ hrooted (by decide) hkey hmeant
    · rw [meantPath?, if_neg hother, writtenPath?, if_pos (.inr (.inr (by decide)))] at hmeant
      cases hmeant

/-- A page that imports itself by a path that leads out of its folder and back. -/
def detour : Page where
  path := "types/vault.dart"
  imports := ImportMap.empty.addModule "../types/vault.dart"
  defines := ["Vault", "BVault"]
  body := "class Vault \x7b\x7d\n"

/-- **A page that imports itself by a detour keeps the import**: the path is relative already, and
so it is kept as it is. It is the name that the page itself has as seen from it, it leads to the
page, and it brings what the page defines. -/
theorem finalImports_detour :
    IsNormal detour.path ∧
    (detour.finalImports ∅).containsModule (relativeModule detour.path detour.path ∅) = true ∧
      detour.writtenPath? ∅ (relativeModule detour.path detour.path ∅) = some detour.path ∧
      ∀ symbol ∈ detour.defines, (detour.finalImports ∅).contains
        (relativeModule detour.path detour.path ∅) symbol = true := by
  have hnormal : IsNormal detour.path := by decide
  have hrooted : IsFromRoot ∅ detour.path := ⟨Std.ExtTreeMap.not_mem_empty, by decide⟩
  have hrelative : ¬ IsFromRoot ∅ "../types/vault.dart" :=
    fun h => h.2 "../" (by decide) (by decide)
  -- One is kept since it is relative already, the other one is written as seen from the page.
  have hkept : relativeModule "../types/vault.dart" detour.path ∅ =
      relativeModule detour.path detour.path ∅ := by
    rw [relativeModule_of_not_isFromRoot hrelative, hrooted.relativeModule_eq]
    rfl
  have hwhole : detour.imports.Whole "../types/vault.dart" := by simp [detour]
  refine ⟨hnormal, ?_, ?_, fun symbol _ => ?_⟩
  · exact containsModule_finalImports.mpr ⟨_, hkept, by decide, .inl hwhole⟩
  · rw [writtenPath?_relativeModule hnormal.isPlain Std.ExtTreeMap.not_mem_empty]
    exact meantPath?_of_isNormal hrooted hnormal
  · exact contains_finalImports.mpr
      ⟨_, hkept, ⟨hwhole.contains symbol, by decide⟩, .inl hwhole⟩

end Page

end DartClient
