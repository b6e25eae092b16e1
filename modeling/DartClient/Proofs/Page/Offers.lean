import DartClient.Page.Data
import DartClient.Proofs.Manifest.Needs
import DartClient.Proofs.Page.Paths

/-!
# What pages offer each other

A page offers the symbols that it defines and those of the pages that it exports. Imports are
settled if each of them leads to an alias or to a page, and each symbol that they show is offered by
the page.

A link shows symbols of its target, and the page of the target offers them: the class of a struct,
the class of an enum, whose variants have pages that the page of the enum exports, and an alias with
the classes beside its type.

## Main definitions

* `Page.Offers`: the symbols that can be imported from a page.
* `ImportMap.Settled`: all imports lead to pages that offer what is imported.

## Main results

* `offers_of_shows`: the page of a type offers what links show of it.
-/

namespace DartClient

open Idl (TypeNode StructField EnumVariant NumberType NumberFormat DefinedType)

/-! ## Pages -/

/-- A page exports another one: one of its lines does, by a path that leads there. -/
def Page.ReExports (page other : Page) : Prop :=
  ∃ lines path, page.body = Text.unlines lines ∧ SourceFile.exportLine path ∈ lines ∧
    followedPath? page.path path = some other.path

/-- A symbol can be imported from a page: the page or one that it exports defines it. -/
def Page.Offers (pages : List Page) (page : Page) (symbol : String) : Prop :=
  symbol ∈ page.defines ∨ ∃ other ∈ pages, page.ReExports other ∧ symbol ∈ other.defines

/-- A module is an alias or the path of a page. -/
def LeadsToPage (pages : List Page) (module : String) : Prop :=
  Settings.defaultAliases.contains module = true ∨
    (IsGenerated module ∧ ∃ page ∈ pages, page.path = module)

/-- A module is an alias or the path of a page that offers a symbol. -/
def LeadsToSymbol (pages : List Page) (module symbol : String) : Prop :=
  Settings.defaultAliases.contains module = true ∨
    (IsGenerated module ∧ ∃ page ∈ pages, page.path = module ∧ page.Offers pages symbol)

/-! ## Settled imports -/

/-- All imports lead to pages that offer what is imported. A module that is imported as a whole
shows no symbol. -/
abbrev ImportMap.Settled (pages : List Page) (imports : ImportMap) : Prop :=
  imports.Within (LeadsToPage pages) (LeadsToSymbol pages)

variable {pages : List Page} {resolver : Resolver} {type : DefinedType} {manifest : Manifest}
  {symbol : String}

/-! ## The pages of a type -/

/-- The page of a type that links lead to. -/
def typePage (type : DefinedType) (manifest : Manifest) : Page :=
  match manifest.shape with
  | .struct fields => structPage type manifest fields
  | .enum size variants => enumPage type manifest size variants
  | .plain => aliasPage type manifest

theorem typePage_mem (type : DefinedType) (manifest : Manifest) :
    typePage type manifest ∈ typePagesOf type manifest := by
  cases hshape : manifest.shape <;> simp [typePage, typePagesOf, hshape]

theorem path_typePage (type : DefinedType) (manifest : Manifest) :
    (typePage type manifest).path = generatedModule "types" (fileStem type.name) := by
  unfold typePage
  split <;> rfl

/-- The page of a type defines its name. -/
theorem className_mem_defines (type : DefinedType) (manifest : Manifest) :
    className type.name ∈ (typePage type manifest).defines := by
  unfold typePage
  split <;> exact List.mem_cons_self

/-- The page of a type defines the classes beside the type. -/
theorem mem_defines_of_declared {name : String} (hname : name ∈ manifest.declaredNames)
    (hsymbol : symbol ∈ classSymbols name) : symbol ∈ (typePage type manifest).defines := by
  obtain ⟨declaration, hdeclaration, rfl⟩ := List.mem_map.mp hname
  have hmem : symbol ∈ manifest.declarations.flatMap declarationSymbols :=
    List.mem_flatMap.mpr ⟨declaration, hdeclaration, List.mem_append_left _ hsymbol⟩
  unfold typePage
  split
  · exact List.mem_append_right _ hmem
  · exact List.mem_cons_of_mem _ hmem
  · exact List.mem_cons_of_mem _ hmem

/-- The page of an enum exports the pages of its variants. -/
theorem reExports_variantPage {size : NumberFormat} {variants : List VariantManifest}
    {variant : VariantManifest} (hvariant : variant ∈ variants) :
    (enumPage type manifest size variants).ReExports
      (variantPage (fileStem type.name) manifest variant) := by
  refine ⟨_, generatedModule (fileStem type.name) (fileStem variant.name), rfl, ?_, ?_⟩
  · have hpath : generatedModule (fileStem type.name) (fileStem variant.name) ∈
        variants.map fun variant => generatedModule (fileStem type.name) (fileStem variant.name) :=
      List.mem_map_of_mem hvariant
    simp only [SourceFile.lines, Option.map_some, Option.getD_some]
    exact List.mem_append_left _ (List.mem_append_left _
      (List.mem_append_left _ (List.mem_map_of_mem hpath)))
  · have hplain := isPlain_generatedModule (isPlain_fileStem type.name) variant.name
    have hfollowed : followedPath? ("types" ++ "/" ++ (fileStem type.name ++ ".dart")) _ = _ :=
      followedPath?_of_isPlain (by decide) (slash_not_mem_file type.name) hplain
    rw [← String.append_assoc] at hfollowed
    refine hfollowed.trans (congrArg some ?_)
    simp only [variantPage, Page.ofSource, variantModule, generatedModule, ← String.append_assoc]
    rfl

theorem variantPage_mem {size : NumberFormat} {variants : List VariantManifest}
    (hshape : manifest.shape = .enum size variants) {variant : VariantManifest}
    (hvariant : variant ∈ variants) :
    variantPage (fileStem type.name) manifest variant ∈ typePagesOf type manifest := by
  rw [typePagesOf, hshape]
  exact List.mem_cons_of_mem _ (List.mem_map_of_mem hvariant)

theorem exists_fields_of_shape {node : TypeNode} (h : DefinedShape.ofType node = .struct) :
    ∃ fields, node = .struct fields := by
  cases node <;> first | exact ⟨_, rfl⟩ | cases h

theorem exists_variants_of_shape {node : TypeNode} {names : List String}
    (h : DefinedShape.ofType node = .enum names) : ∃ variants size, node = .enum variants size ∧
      names = variants.map fun variant => className variant.name := by
  cases node <;> first | exact ⟨_, _, rfl, (DefinedShape.enum.inj h).symm⟩ | cases h

/-- **The page of a type offers what links show of it.** -/
theorem offers_of_shows (hbuilds : resolver.Builds type.type (.root (className type.name) .type)
      manifest) (hpages : ∀ page ∈ typePagesOf type manifest, page ∈ pages)
    (hshows : Shows type.name type symbol) : (typePage type manifest).Offers pages symbol := by
  have hname : (typePage type manifest).Offers pages (className type.name) :=
    .inl (className_mem_defines type manifest)
  unfold Shows at hshows
  split at hshows
  case h_1 hshape =>
    -- A struct makes the page of a class with fields.
    obtain ⟨fields, htype⟩ := exists_fields_of_shape hshape
    rw [htype] at hbuilds
    obtain ⟨children, rfl⟩ := Resolver.exists_structClass_of_builds hbuilds
    left
    rw [typePage, Resolver.shape_structClass rfl]
    exact List.mem_append_left _ hshows
  case h_2 variants hshape =>
    rcases hshows with rfl | hshows
    · exact hname
    · -- The layouts of variants are defined on pages of their own.
      obtain ⟨nodes, size, htype, rfl⟩ := exists_variants_of_shape hshape
      rw [htype] at hbuilds
      obtain ⟨format, parts, hlength, rfl⟩ := Resolver.exists_enumClass_of_builds hbuilds
      have hvariants := map_name_ofVariants 0 hlength
      rw [← hvariants] at hshows
      obtain ⟨_, hname, rfl⟩ := List.mem_map.mp hshows
      obtain ⟨variant, hvariant, rfl⟩ := List.mem_map.mp hname
      refine .inr ⟨_, hpages _ (variantPage_mem (Resolver.shape_enumClass rfl) hvariant), ?_, ?_⟩
      · rw [typePage, Resolver.shape_enumClass rfl]
        exact reExports_variantPage hvariant
      · exact List.mem_cons_of_mem _ List.mem_cons_self
  case h_3 hshape =>
    rcases hshows with rfl | ⟨name, hdeclares, hsymbol⟩
    · exact hname
    · have hdeclared : name ∈ manifest.declaredNames :=
        (Resolver.mem_declaredNames_of_builds hbuilds).mpr hdeclares
      exact .inl (mem_defines_of_declared hdeclared hsymbol)

end DartClient
