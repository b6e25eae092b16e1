import DartClient.Proofs.Client.Fitting

/-!
# When a page is ambiguous

A page is ambiguous if it defines a symbol twice or shows one of two modules. Spelling the names of
a description apart, program by program and kind by kind, does not prevent this. Structs and enums
in place are called by the names of all that they stand in, but the variants of an enum are called
by their own names alone, so a variant may be called like the account that it belongs to, like a
variant of another enum, or like a type.

Where symbols come from is told by the outline of a page. What all generated code needs comes from
one module each, so a symbol that is shown of two modules is taken from the file of a type or a
variant at least once.

## Main definitions

* `Page.Picks`: a page shows single symbols of a module.
* `Outline.SourcesApart`: no symbol that is taken from a file is found in another module too.
* `Idl.Root.SpelledApart`: the names of each kind are spelled apart in each program.

## Main results

* `origins_of_mem_clientPages`: when the symbols of a page have one origin.
-/

namespace DartClient

open Idl (Root Program Account DefinedType)

/-! ## Sources -/

/-- A page shows single symbols of a module: the module is not the page itself, and the page does
not import it as a whole. -/
def Page.Picks (page : Page) (module : String) : Prop :=
  page.path ≠ module ∧ ¬ page.imports.Whole module

/-- No symbol that a page takes from the file of a type or a variant is taken from another file or
imported for another purpose. Only modules count of which single symbols are shown, and only symbols
that the page does not define itself. -/
def Outline.SourcesApart (dictionary : Dictionary) (outline : Outline) (page : Page) : Prop :=
  ∀ ⦃module other symbol : String⦄, outline.Takes dictionary module symbol →
    (outline.Takes dictionary other symbol ∨
      (IsCommon outline.program other symbol ∧ page.imports.contains other symbol = true)) →
    page.Picks module → page.Picks other → symbol ∉ page.defines → module = other

/-! ## Modules do not climb -/

theorem IsGenerated.isRooted {module : String} (h : IsGenerated module) : IsRooted module := by
  obtain ⟨rest, hrest⟩ := h.exists_toList_eq
  rw [IsRooted]
  rcases hrest with hrest | hrest | hrest <;> simp [hrest]

section Origins

variable {dictionary : Dictionary} {outline : Outline} {page : Page} {module symbol : String}

theorem isRooted_of_includes (h : outline.Includes module) : IsRooted module := by
  rcases h with rfl | ⟨type, -, rfl⟩
  · decide
  · exact (IsGenerated.type type).isRooted

theorem isRooted_of_names (h : outline.Names dictionary module symbol) : IsRooted module := by
  have hcommon : ∀ pair ∈ commonSymbols, IsRooted pair.1 := by decide
  rcases h with (⟨-, ⟨-, -, -⟩⟩ | ⟨-, -⟩) | hmem | ⟨rfl, -⟩
  · exact (IsGenerated.type _).isRooted
  · exact (IsGenerated.variant _ _).isRooted
  · exact hcommon _ hmem
  · exact (IsGenerated.program _).isRooted

namespace Page.Fits

theorem isRooted (h : page.Fits dictionary outline)
    (hcontains : page.imports.contains module symbol = true) : IsRooted module := by
  rcases h.imports.shown hcontains with hwhole | hnames
  · exact isRooted_of_includes (h.imports.whole hwhole)
  · exact isRooted_of_names hnames

/-- A page that fits its outline defines each symbol once if the classes of the outline are
apart. -/
theorem nodup_defines_iff (h : page.Fits dictionary outline) :
    page.defines.Nodup ↔ ClassesApart outline.names outline.classes :=
  h.defines.nodup_iff.trans nodup_symbols_iff

/-- A page that fits its outline shows each symbol of one module if the sources of the outline are
apart. -/
theorem oneOrigin_iff (h : page.Fits dictionary outline) (aliases : Aliases) :
    (page.finalImports aliases).OneOrigin ↔ outline.SourcesApart dictionary page := by
  rw [Page.oneOrigin_finalImports_iff fun _ _ => h.isRooted]
  have hshows {module symbol : String} (hpicks : page.Picks module)
      (hdefines : symbol ∉ page.defines)
      (hcontains : page.imports.contains module symbol = true) : page.ShowsFrom module symbol :=
    ⟨ImportMap.shownFrom_iff.mpr ⟨hcontains, hpicks.2⟩, hpicks.1, hdefines⟩
  constructor
  · intro hone module other symbol htakes hother hmodule hpicks hdefines
    refine hone (hshows hmodule hdefines (h.takes htakes)) (hshows hpicks hdefines ?_)
    exact hother.elim h.takes fun hcommon => hcommon.2
  · rintro hapart module other symbol ⟨hmodule, hpath, hdefines⟩ ⟨hother, hpath', -⟩
    obtain ⟨hcontains, hshown⟩ := ImportMap.shownFrom_iff.mp hmodule
    obtain ⟨hcontains', hshown'⟩ := ImportMap.shownFrom_iff.mp hother
    -- Of two modules at least one is the file of a type or a variant, unless they are the same.
    rcases (h.imports.shown hcontains).resolve_left hshown with htakes | hcommon
    · refine hapart htakes ?_ ⟨hpath, hshown⟩ ⟨hpath', hshown'⟩ hdefines
      exact ((h.imports.shown hcontains').resolve_left hshown').imp_right fun hcommon' =>
        ⟨hcommon', hcontains'⟩
    · rcases (h.imports.shown hcontains').resolve_left hshown' with htakes' | hcommon'
      · exact (hapart htakes' (.inr ⟨hcommon, hcontains⟩) ⟨hpath', hshown'⟩ ⟨hpath, hshown⟩
          hdefines).symm
      · exact eq_of_isCommon hcommon hcommon'

end Page.Fits

/-- **When the symbols of a page have one origin.** Every page of a client has an outline. The page
defines each symbol once if and only if the names that the outline gives to functions and classes
are distinct and none of them is that of a layout. It shows each symbol of one module if and only if
no symbol that it takes from the file of a type or a variant is found in another module too. -/
theorem origins_of_mem_clientPages {root : Root} {settings : Settings}
    (hpage : page ∈ clientPages (unitResults root settings) settings) :
    ∃ outline, Outlines root settings page outline ∧
      (page.defines.Nodup ↔ ClassesApart outline.names outline.classes) ∧
      ((page.finalImports settings.aliases).OneOrigin ↔
        outline.SourcesApart (.ofRoot root) page) := by
  obtain ⟨outline, houtline⟩ := exists_outline_of_mem_clientPages hpage
  have hfits := fits_of_outlines houtline
  exact ⟨outline, houtline, hfits.nodup_defines_iff, hfits.oneOrigin_iff settings.aliases⟩

end Origins

/-! ## Names that are spelled apart -/

/-- Names are spelled apart, as classes and as files. -/
def SpelledApart (names : List String) : Prop :=
  (names.map className).Nodup ∧ (names.map fileStem).Nodup

instance (names : List String) : Decidable (SpelledApart names) :=
  inferInstanceAs (Decidable (_ ∧ _))

/-- The names of each kind of node are spelled apart in each program. -/
def Idl.Root.SpelledApart (root : Root) : Prop :=
  ∀ program ∈ root.programs, ∀ names ∈
    [program.accounts.map (·.name), program.instructions.map (·.name),
      program.definedTypes.map (·.name), program.pdas.map (·.name), program.errors.map (·.name)],
    DartClient.SpelledApart names

instance (root : Root) : Decidable root.SpelledApart :=
  inferInstanceAs (Decidable (∀ program ∈ root.programs, ∀ names ∈ _, _))

/-- A circle, and a shape that may be one. -/
def shapeTypes : List DefinedType :=
  [⟨"circle", .struct [.plain "radius" (.littleNumber .u8)], []⟩,
   ⟨"shape", .enum [.empty "circle", .empty "square"] ⟨.u8, .little⟩, []⟩]

/-- An account that shows a circle and a shape, or is empty. -/
def vaultAccount : Account where
  name := "vault"
  size := none
  docs := []
  data := .struct
    [.plain "state" (.enum [.empty "vault", .empty "empty"] ⟨.u8, .little⟩),
     .plain "frame" (.defined "circle"),
     .plain "picture" (.defined "shape")]
  pda := none
  discriminators := [.constant (.constant (.number ⟨.u8, .little⟩) (.number (.int 3))) 0]

/-- A description of a program with that account and those types. -/
def gallery : Root where
  standard := "codama"
  version := "1.0.0"
  program := { Idl.Program.ofTypes "gallery" shapeTypes with
    publicKey := "11111111111111111111111111111111"
    accounts := [vaultAccount] }
  additionalPrograms := []

/-- The pages of its client. -/
def galleryPages : List Page := clientPages (unitResults gallery .default) .default

theorem origins_of_mem_clientPages_gallery : ∃ page ∈ galleryPages, ∃ outline,
    page.path = "types/shape.dart" ∧ Outlines gallery .default page outline ∧
      ClassesApart outline.names outline.classes ∧
      ((page.finalImports Settings.default.aliases).OneOrigin ↔
        outline.SourcesApart (.ofRoot gallery) page) := by
  have hshape : ∃ page ∈ galleryPages, page.path = "types/shape.dart" ∧ page.defines.Nodup := by
    decide +kernel
  obtain ⟨page, hpage, hpath, hnodup⟩ := hshape
  obtain ⟨outline, houtline, hdefines, himports⟩ := origins_of_mem_clientPages hpage
  exact ⟨page, hpage, outline, hpath, houtline, hdefines.mp hnodup, himports⟩

/-- Names that are spelled apart do not keep symbols apart: the page of the account defines a class
twice, as a variant of the enum in place is called like the account, and shows a layout of two
modules, as a variant of the shape is called like the circle. -/
theorem gallery_symbols_clash : gallery.SpelledApart ∧ ∃ page ∈ galleryPages,
    page.path = "accounts/vault.dart" ∧ ¬ page.defines.Nodup ∧
      ¬ (page.finalImports Settings.default.aliases).OneOrigin := by
  refine ⟨by decide +kernel, ?_⟩
  have hvault : ∃ page ∈ galleryPages, page.path = "accounts/vault.dart" ∧
      ¬ page.defines.Nodup ∧ ∀ module ∈ ["../types/circle.dart", "../types/shape.dart"],
        (page.finalImports Settings.default.aliases).contains module "BCircle" = true ∧
        (page.finalImports Settings.default.aliases).get? module ≠ some .everything := by
    decide +kernel
  obtain ⟨page, hpage, hpath, hnodup, hmodules⟩ := hvault
  refine ⟨page, hpage, hpath, hnodup, fun hone => ?_⟩
  have hsame : "../types/circle.dart" = "../types/shape.dart" :=
    hone (ImportMap.shownFrom_iff.mpr (hmodules _ List.mem_cons_self))
      (ImportMap.shownFrom_iff.mpr (hmodules _ (List.mem_cons_of_mem _ List.mem_cons_self)))
  exact absurd hsame (by decide)

end DartClient
