import DartClient.Page.Data
import DartClient.Proofs.Imports.Symbols
import Mathlib.Data.List.Nodup
import Mathlib.Data.List.Perm.Basic

/-!
# Where the symbols of a page come from

A page defines symbols and shows others of the modules that it imports. A symbol has one origin if
it is defined once, or else shown of one module.

The classes with a layout are defined together with their layouts, which are called like the class
with one letter in front. So all that is defined is defined once if the names are distinct and none
of them is the name of such a layout.

Writing the imports down relative to the page takes no two of them together, since no module climbs
out of the library by itself. What is imported as a whole shows no symbol.

## Main definitions

* `ImportMap.OneOrigin`: no symbol is shown of two modules.
* `Page.ShowsFrom`: the symbols that are shown once the page is written down.
* `ClassesApart`: no two classes and no class and a layout have one name.

## Main results

* `nodup_symbols_iff`: when all that is defined is defined once.
* `Page.oneOrigin_finalImports_iff`: when each symbol is shown of one module.
-/

namespace DartClient

/-! ## Symbols that are defined -/

/-- Names that are given to functions and classes without a layout and to classes with one are
distinct, and none of them is given to a layout. -/
def ClassesApart (names classes : List String) : Prop :=
  (names ++ classes).Nodup ∧ ∀ cls ∈ classes, layoutSymbol cls ∉ names ++ classes

theorem layoutSymbol_injective : Function.Injective layoutSymbol :=
  fun _ _ h => (String.append_right_inj _).mp h

/-- Classes and layouts take turns. -/
theorem perm_flatMap_classSymbols (classes : List String) :
    (classes.flatMap classSymbols).Perm (classes ++ classes.map layoutSymbol) := by
  have hperm := List.map_append_flatMap_perm classes id fun name => [layoutSymbol name]
  rw [List.map_id, ← List.map_eq_flatMap] at hperm
  exact hperm.symm

/-- **All that is defined is defined once** if the classes are apart. -/
theorem nodup_symbols_iff {names classes : List String} :
    (names ++ classes.flatMap classSymbols).Nodup ↔ ClassesApart names classes := by
  have hperm : (names ++ classes.flatMap classSymbols).Perm
      ((names ++ classes) ++ classes.map layoutSymbol) := by
    rw [List.append_assoc]
    exact (perm_flatMap_classSymbols classes).append_left names
  rw [hperm.nodup_iff, List.nodup_append', ClassesApart]
  constructor
  · rintro ⟨hnames, -, hdisjoint⟩
    exact ⟨hnames, fun cls hcls hmem => hdisjoint hmem (List.mem_map_of_mem hcls)⟩
  · rintro ⟨hnames, hlayouts⟩
    have hclasses : classes.Nodup := hnames.of_append_right
    refine ⟨hnames, hclasses.map layoutSymbol_injective, fun symbol hmem hlayout => ?_⟩
    obtain ⟨cls, hcls, rfl⟩ := List.mem_map.mp hlayout
    exact hlayouts cls hcls hmem

/-- The names of the classes of a declaration: that of the class, and those of the variants of an
enum. -/
def Declaration.classNames (declaration : Declaration) : List String :=
  declaration.name ::
  match declaration.shape with
  | .plain | .struct _ => []
  | .enum _ variants => variants.map VariantManifest.name

/-- The names of the classes beside a type. The variants of enums are called by their own names. -/
def Manifest.classNames (manifest : Manifest) : List String :=
  manifest.declarations.flatMap Declaration.classNames

theorem flatMap_declarationSymbols (manifest : Manifest) :
    manifest.declarations.flatMap declarationSymbols =
      manifest.classNames.flatMap classSymbols := by
  have hsymbols (declaration : Declaration) :
      declarationSymbols declaration = declaration.classNames.flatMap classSymbols := by
    unfold declarationSymbols Declaration.classNames
    rcases declaration.shape with _ | _ | ⟨size, variants⟩ <;> simp [List.flatMap_map]
  rw [Manifest.classNames, List.flatMap_assoc]
  exact List.flatMap_congr fun declaration _ => hsymbols declaration

/-! ## Symbols that are shown -/

namespace ImportMap

variable {imports : ImportMap} {module symbol : String}

/-- Each symbol is shown of one module. -/
def OneOrigin (imports : ImportMap) : Prop :=
  ∀ ⦃module other symbol : String⦄, imports.ShownFrom module symbol →
    imports.ShownFrom other symbol → module = other

/-- All symbols of a module that is imported as a whole are imported. -/
theorem Whole.contains (h : imports.Whole module) (symbol : String) :
    imports.contains module symbol = true := by
  rw [contains_iff, h]
  trivial

end ImportMap

/-! ## Writing imports down -/

/-- The module does not climb out of the library by itself. -/
def IsRooted (module : String) : Prop := ¬ ['.', '.', '/'] <+: module.toList

instance (module : String) : Decidable (IsRooted module) :=
  inferInstanceAs (Decidable (¬ _))

/-- **Modules that do not climb stay apart** as seen from a page. -/
theorem relativeModule_inj {module other path : String} {aliases : Aliases}
    (hmodule : IsRooted module) (hother : IsRooted other)
    (h : relativeModule module path aliases = relativeModule other path aliases) :
    module = other := by
  have hclimbs (count : Nat) {library module : String} (hrooted : IsRooted module)
      (h : String.join (List.replicate count "../") ++ library = module) : library = module := by
    cases count with
    | zero => simpa using h
    | succ count =>
      -- A path that leads up at all is no module that does not climb.
      refine absurd ?_ hrooted
      rw [← h, List.replicate_succ, String.join_cons, String.append_assoc, String.toList_append]
      exact List.prefix_append _ _
  unfold relativeModule at h
  split at h <;> split at h
  · exact (String.append_right_inj _).mp h
  · exact hclimbs _ hother h
  · exact (hclimbs _ hmodule h.symm).symm
  · exact h

namespace Page

variable {page : Page} {aliases : Aliases} {module symbol : String}

/-! What is written down comes from the other modules, each under its name as seen from the page. -/

theorem whole_finalImports : (page.finalImports aliases).Whole module ↔
    ∃ key, relativeModule key page.path aliases = module ∧
      page.imports.Whole key ∧ page.path ≠ key := by
  rw [finalImports, ImportMap.whole_mapModules]
  simp only [ImportMap.whole_removeSymbols, ImportMap.whole_removeModule]

theorem contains_finalImports : (page.finalImports aliases).contains module symbol = true ↔
    ∃ key, relativeModule key page.path aliases = module ∧
      (page.imports.contains key symbol = true ∧ page.path ≠ key) ∧
        (page.imports.Whole key ∨ symbol ∉ page.defines) := by
  rw [finalImports, ImportMap.contains_mapModules]
  simp only [ImportMap.contains_removeSymbols, ImportMap.contains_removeModule,
    ImportMap.whole_removeModule]
  refine exists_congr fun key => and_congr_right fun _ => and_congr_right fun hkey => ?_
  rw [and_iff_left hkey.2]

/-- A symbol is shown of a module on a page. What the page defines itself is not. -/
def ShowsFrom (page : Page) (module symbol : String) : Prop :=
  page.imports.ShownFrom module symbol ∧ page.path ≠ module ∧ symbol ∉ page.defines

/-- A module that is not imported as a whole shows what the page shows of the modules of its name. -/
theorem shownFrom_finalImports_iff : (page.finalImports aliases).ShownFrom module symbol ↔
    ¬ (page.finalImports aliases).Whole module ∧
      ∃ key, relativeModule key page.path aliases = module ∧ page.ShowsFrom key symbol := by
  rw [ImportMap.shownFrom_iff, and_comm, contains_finalImports]
  refine and_congr_right fun hwhole => exists_congr fun key => and_congr_right fun hkey => ?_
  -- No module of that name is whole, unless it is the page itself.
  have hshown : page.path ≠ key → ¬ page.imports.Whole key := fun hpath h =>
    hwhole (whole_finalImports.mpr ⟨key, hkey, h, hpath⟩)
  rw [ShowsFrom, ImportMap.shownFrom_iff]
  constructor
  · rintro ⟨⟨hcontains, hpath⟩, hdefines⟩
    exact ⟨⟨hcontains, hshown hpath⟩, hpath, hdefines.resolve_left (hshown hpath)⟩
  · rintro ⟨⟨hcontains, -⟩, hpath, hdefines⟩
    exact ⟨⟨hcontains, hpath⟩, .inr hdefines⟩

/-- What is written down is what the page shows, by paths that are relative to it. -/
theorem shownFrom_finalImports
    (hrooted : ∀ key symbol, page.imports.contains key symbol = true → IsRooted key) :
    (page.finalImports aliases).ShownFrom module symbol ↔
      ∃ key, relativeModule key page.path aliases = module ∧ page.ShowsFrom key symbol := by
  rw [shownFrom_finalImports_iff, and_iff_right_iff_imp]
  rintro ⟨key, rfl, hshows, -⟩ hwhole
  obtain ⟨hcontains, hshown⟩ := ImportMap.shownFrom_iff.mp hshows
  obtain ⟨other, hother, hwhole, -⟩ := whole_finalImports.mp hwhole
  have hsame := relativeModule_inj (hrooted _ symbol (hwhole.contains symbol))
    (hrooted _ _ hcontains) hother
  exact hshown (hsame ▸ hwhole)

/-- **Each symbol is shown of one module** on a page if this is so before it is written down. -/
theorem oneOrigin_finalImports_iff
    (hrooted : ∀ key symbol, page.imports.contains key symbol = true → IsRooted key) :
    (page.finalImports aliases).OneOrigin ↔ ∀ ⦃module other symbol : String⦄,
      page.ShowsFrom module symbol → page.ShowsFrom other symbol → module = other := by
  have hkey {key symbol : String} (h : page.ShowsFrom key symbol) : IsRooted key :=
    hrooted key symbol (ImportMap.shownFrom_iff.mp h.1).1
  constructor
  · intro h module other symbol hmodule hother
    exact relativeModule_inj (hkey hmodule) (hkey hother)
      (h ((shownFrom_finalImports hrooted).mpr ⟨module, rfl, hmodule⟩)
        ((shownFrom_finalImports hrooted).mpr ⟨other, rfl, hother⟩))
  · intro h module other symbol hmodule hother
    obtain ⟨key, rfl, hkey⟩ := (shownFrom_finalImports hrooted).mp hmodule
    obtain ⟨key', rfl, hkey'⟩ := (shownFrom_finalImports hrooted).mp hother
    rw [h hkey hkey']

end Page

end DartClient
