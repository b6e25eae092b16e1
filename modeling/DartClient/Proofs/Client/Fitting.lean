import DartClient.Proofs.Client.Outlines
import DartClient.Proofs.Imports.Join

/-!
# Pages fit their outlines

A page defines what its outline names and nothing else. It imports everything that its outline
takes, and nothing else but what all generated code needs. As a whole it imports the module of
annotations at most, and the page of a variant that of its type.

The imports of a page are put together from those of manifests, seeds and programs by adding and
merging, which keep to the outline.

## Main definitions

* `Outline.Names`, `Outline.Includes`: what a page of an outline may import.
* `Page.Fits`: a page defines and imports what its outline tells.

## Main results

* `admits_of_builds`: the manifest of a type of the outline keeps to the outline.
* `fits_of_outlines`: a page fits its outline.
-/

namespace DartClient

open Idl (Root Program Account Instruction DefinedType Pda PdaSeed TypeNode NumberFormat)

/-! ## Keeping to an outline -/

/-- A page of the outline may show a symbol of a module. -/
def Outline.Names (dictionary : Dictionary) (outline : Outline) (module symbol : String) : Prop :=
  outline.Takes dictionary module symbol ∨ IsCommon outline.program module symbol

/-- A page of the outline may import a module as a whole: that of annotations, or its type. -/
def Outline.Includes (outline : Outline) (module : String) : Prop :=
  module = borshModule ∨
    ∃ type, outline.whole = some type ∧ module = generatedModule "types" (fileStem type)

/-- Imports keep to an outline. -/
abbrev Outline.Admits (dictionary : Dictionary) (outline : Outline) (imports : ImportMap) : Prop :=
  imports.Within outline.Includes (outline.Names dictionary)

/-- A page defines and imports what its outline tells. -/
structure Page.Fits (dictionary : Dictionary) (page : Page) (outline : Outline) : Prop where
  defines : page.defines.Perm (outline.names ++ outline.classes.flatMap classSymbols)
  takes : ∀ {module symbol}, outline.Takes dictionary module symbol →
    page.imports.contains module symbol = true
  imports : outline.Admits dictionary page.imports

section Admits

variable {dictionary : Dictionary} {outline : Outline} {imports : ImportMap}
  {module symbol : String}

theorem Outline.Takes.exists_type (h : outline.Takes dictionary module symbol)
    (hvariants : outline.variants = []) : ∃ type ∈ outline.types,
      Resolver.Draws ⟨dictionary, outline.program.name⟩ type module symbol := by
  cases h with
  | link htype h => exact ⟨_, htype, h⟩
  | variant hvariant =>
    rw [hvariants] at hvariant
    cases hvariant

theorem Outline.not_takes (hvariants : outline.variants = []) (htypes : outline.types = []) :
    ¬ outline.Takes dictionary module symbol := by
  intro h
  obtain ⟨type, htype, -⟩ := h.exists_type hvariants
  rw [htypes] at htype
  cases htype

theorem admits_empty : outline.Admits dictionary .empty := .empty

theorem admits_addCommon (h : outline.Admits dictionary imports) {symbols : List String}
    (hsymbols : ∀ symbol ∈ symbols, (module, symbol) ∈ commonSymbols) :
    outline.Admits dictionary (imports.add module symbols) :=
  h.add fun symbol hsymbol => .inr (isCommon_of_mem (hsymbols symbol hsymbol))

theorem admits_layoutImports : outline.Admits dictionary layoutImports :=
  admits_addCommon (admits_empty.addModule (.inl rfl)) (by decide)

/-- The manifest of a type of the outline imports what links draw and leaves need. -/
theorem admits_of_builds {node : TypeNode} {ctx : ResolveContext} {manifest : Manifest}
    (h : Resolver.Builds ⟨dictionary, outline.program.name⟩ node ctx manifest)
    (htype : node ∈ outline.types) : outline.Admits dictionary manifest.imports where
  whole hwhole := absurd hwhole (Resolver.not_whole_of_builds h)
  shown hcontains := by
    rcases Resolver.source_of_builds h hcontains with hleaf | hdraws
    · exact .inr (.inr (isCommon_of_leafImport hleaf))
    · exact .inr (.inl (.link htype hdraws))

theorem admits_addProgram {program : Program} (hprogram : outline.program = program)
    (h : outline.Admits dictionary imports) : outline.Admits dictionary
      (imports.add (generatedModule "programs" (fileStem program.name))
        [programClass program.name]) := by
  refine h.add fun symbol hsymbol => .inr ?_
  obtain rfl := List.mem_singleton.mp hsymbol
  rw [hprogram]
  exact isCommon_program

/-- Seeds need nothing but encoders. -/
theorem admits_derivation (derivation : Derivation) :
    outline.Admits dictionary derivation.imports := by
  have hencoding (encoding : SeedEncoding) : outline.Admits dictionary encoding.imports := by
    cases encoding with
    | utf8 => exact admits_addCommon admits_empty (by decide)
    | number format | boolean format =>
      refine admits_empty.add fun symbol hsymbol => .inr ?_
      obtain rfl := List.mem_singleton.mp hsymbol
      exact isCommon_encoder format
    | publicKey | bytes | layout => exact admits_empty
  refine ImportMap.Within.merged fun imports himports => ?_
  obtain ⟨seed, -, rfl⟩ := List.mem_map.mp himports
  cases seed with
  | utf8 | bytes => exact admits_addCommon admits_empty (by decide)
  | programId | account => exact admits_empty
  | argument _ encoding | parameter _ encoding => exact hencoding encoding

theorem admits_builderImports {program : Program} (hprogram : outline.program = program)
    (accounts : List BuilderAccount) :
    outline.Admits dictionary (builderImports program accounts) := by
  refine ImportMap.Within.foldl (fun account _ imports himports => ?_)
    (admits_addProgram hprogram (admits_addCommon (admits_addCommon admits_empty (by decide))
      (by decide)))
  split
  · exact himports.merge (admits_derivation _)
  · exact himports

end Admits

/-! ## Pages that fit -/

section Fits

variable {dictionary : Dictionary} {program : Program} {module symbol : String}

/-- What the only type of an outline draws is imported by its manifest. -/
theorem contains_of_takes {outline : Outline} {node : TypeNode} {ctx : ResolveContext}
    {manifest : Manifest}
    (h : Resolver.Builds ⟨dictionary, outline.program.name⟩ node ctx manifest)
    (hvariants : outline.variants = []) (htypes : outline.types = [node])
    (htakes : outline.Takes dictionary module symbol) :
    manifest.imports.contains module symbol = true := by
  obtain ⟨type, htype, hdraws⟩ := htakes.exists_type hvariants
  rw [htypes] at htype
  obtain rfl := List.mem_singleton.mp htype
  exact Resolver.contains_of_draws h hdraws

theorem fits_encoders : encoderPage.Fits dictionary { program, names := encoderNames } where
  defines := by
    rw [List.flatMap_nil, List.append_nil]
    rfl
  takes h := absurd h (Outline.not_takes rfl rfl)
  imports := admits_addCommon admits_empty (by decide)

theorem fits_index (paths : List String) (library : String) :
    (libraryIndex paths library).Fits dictionary { program } where
  defines := .nil
  takes h := absurd h (Outline.not_takes rfl rfl)
  imports := admits_empty

theorem fits_program {page : Page} (hpage : programPage program = .ok page) :
    page.Fits dictionary { program, names := [programClass program.name] } := by
  obtain ⟨address, -, hpage⟩ := Resolved.bind_eq_ok_iff.mp hpage
  obtain rfl := Except.ok.inj hpage
  exact
    { defines := .refl _
      takes := fun h => absurd h (Outline.not_takes rfl rfl)
      imports := admits_addCommon admits_empty (by decide) }

theorem fits_errors {page : Page} (hpage : errorsPage? program = some page) :
    page.Fits dictionary { program, names := [errorsClass program.name] } := by
  unfold errorsPage? at hpage
  split at hpage
  · cases hpage
  · obtain rfl := Option.some.inj hpage
    exact
      { defines := .refl _
        takes := fun h => absurd h (Outline.not_takes rfl rfl)
        imports := admits_empty }

/-! ### Derived addresses -/

/-- The types of variable seeds are resolved one by one. -/
theorem builds_of_seedManifests {resolver : Resolver} {seeds : List PdaSeed} :
    ∀ {manifests : List Manifest}, resolver.seedManifests seeds = .ok manifests →
      List.Forall₂ (fun type manifest => ∃ ctx, resolver.Builds type ctx manifest)
        (seeds.filterMap PdaSeed.type?) manifests := by
  induction seeds with
  | nil =>
    intro manifests h
    obtain rfl := Except.ok.inj h
    exact .nil
  | cons seed seeds ih =>
    intro manifests h
    match seed with
    | .constant _ _ => exact ih h
    | .variable name type _ =>
      obtain ⟨manifest, hmanifest, h⟩ := Resolved.bind_eq_ok_iff.mp h
      obtain ⟨rest, hrest, h⟩ := Resolved.bind_eq_ok_iff.mp h
      obtain rfl := Except.ok.inj h
      exact .cons ⟨_, Resolver.builds_of_resolve hmanifest⟩ (ih hrest)

theorem admits_derivingProgram {outline : Outline} (hprogram : outline.program = program)
    {pda : Pda} {term : AddressTerm} {imports : ImportMap}
    (h : derivingProgram program pda = .ok (term, imports)) :
    outline.Admits dictionary imports := by
  unfold derivingProgram at h
  split at h
  · obtain ⟨address, -, h⟩ := Resolved.bind_eq_ok_iff.mp h
    obtain ⟨-, rfl⟩ := Prod.mk.inj (Except.ok.inj h)
    exact admits_empty
  · obtain ⟨-, rfl⟩ := Prod.mk.inj (Except.ok.inj h)
    exact admits_addProgram hprogram admits_empty

theorem fits_pda {pda : Pda} {page : Page} {diagnostics : List Diagnostic}
    (hpage : Resolver.pdaPage ⟨dictionary, program.name⟩ program pda =
      .ok ⟨[page], diagnostics⟩) :
    page.Fits dictionary
      { program
        names := [pdaFunction pda.name]
        types := pda.seeds.filterMap PdaSeed.type? } := by
  obtain ⟨⟨helper, diagnostics, imports⟩, hhelper, hpage⟩ := Resolved.bind_eq_ok_iff.mp hpage
  obtain ⟨hpages, -⟩ := Rendering.mk.inj (Except.ok.inj hpage)
  obtain rfl := List.singleton_injective hpages
  obtain ⟨derivation, -, hhelper⟩ := Resolved.bind_eq_ok_iff.mp hhelper
  obtain ⟨_, -, hhelper⟩ := Resolved.bind_eq_ok_iff.mp hhelper
  obtain ⟨manifests, hmanifests, hhelper⟩ := Resolved.bind_eq_ok_iff.mp hhelper
  obtain ⟨⟨term, programImports⟩, hterm, hhelper⟩ := Resolved.bind_eq_ok_iff.mp hhelper
  obtain ⟨rfl, -, rfl⟩ : _ ∧ _ ∧ _ := by
    simpa only [Prod.mk.injEq] using Except.ok.inj hhelper
  have hbuilds := builds_of_seedManifests hmanifests
  refine ⟨.refl _, fun htakes => ?_, ?_⟩
  · obtain ⟨type, htype, hdraws⟩ := htakes.exists_type rfl
    obtain ⟨manifest, hmem, ctx, hmanifest⟩ := exists_of_forall₂_of_mem_left hbuilds htype
    refine ImportMap.contains_merge.mpr (.inl ?_)
    rw [← List.foldl_map, ImportMap.contains_foldl_merge]
    exact .inr ⟨_, List.mem_map_of_mem hmem, Resolver.contains_of_draws hmanifest hdraws⟩
  · refine ImportMap.Within.merge ?_ (admits_derivingProgram rfl hterm)
    refine ImportMap.Within.foldl (fun manifest hmem _ himports => himports.merge ?_)
      (admits_addCommon (admits_derivation derivation) (by decide))
    obtain ⟨type, htype, ctx, hmanifest⟩ := exists_of_forall₂_of_mem_right hbuilds hmem
    exact admits_of_builds hmanifest htype

/-! ### Accounts and instructions -/

/-- The classes with a layout that are defined besides the classes beside a type. -/
theorem perm_defines (names classes : List String) (manifest : Manifest) :
    (names ++ (classes.flatMap classSymbols ++
      manifest.declarations.flatMap declarationSymbols)).Perm
      (names ++ (classes ++ manifest.classNames).flatMap classSymbols) := by
  rw [flatMap_declarationSymbols, List.flatMap_append]

theorem fits_account {cls : AccountClass}
    (hcls : Resolver.accountClass ⟨dictionary, program.name⟩ cls.account = .ok cls) :
    cls.page.Fits dictionary
      { program
        classes := cls.name :: cls.manifest.classNames
        types := [cls.account.data] } := by
  obtain ⟨manifest, hmanifest, hmade⟩ := Resolved.bind_eq_ok_iff.mp hcls
  obtain ⟨discriminator, -, hmade⟩ := Resolved.bind_eq_ok_iff.mp hmade
  obtain rfl : manifest = cls.manifest := congrArg AccountClass.manifest (Except.ok.inj hmade)
  have hbuilds := Resolver.builds_of_resolve hmanifest
  exact
    { defines := perm_defines [] [_] cls.manifest
      takes := fun h => ImportMap.contains_merge.mpr (.inr (contains_of_takes hbuilds rfl rfl h))
      imports := admits_layoutImports.merge (admits_of_builds hbuilds List.mem_cons_self) }

theorem fits_instruction {instruction : Instruction} (accounts : List BuilderAccount)
    {discriminator : Discriminator} {cls : Option ArgumentClass}
    (hcls : Resolver.argumentClass? ⟨dictionary, program.name⟩ instruction discriminator =
      .ok cls) :
    (instructionPageOf instruction accounts program discriminator cls).Fits dictionary
      { program
        names := [instructionFunction instruction.name]
        classes := (cls.map fun cls => cls.name :: cls.manifest.classNames).getD []
        types := [.struct (instruction.arguments.map Idl.Argument.toField)] } := by
  unfold Resolver.argumentClass? at hcls
  split at hcls
  case isTrue hempty =>
    obtain rfl := Except.ok.inj hcls
    refine ⟨.refl _, fun htakes => ?_, ?_⟩
    · -- No links are met in a struct without fields.
      obtain ⟨type, htype, hmeets, -, -⟩ := htakes.exists_type rfl
      obtain rfl := List.mem_singleton.mp htype
      obtain ⟨part, hpart, -⟩ := Resolver.exists_part_of_meets (fun _ _ => by simp) hmeets
      simp [List.isEmpty_iff.mp hempty, TypeNode.parts] at hpart
    · exact (admits_builderImports rfl accounts).merge (admits_addCommon admits_empty (by decide))
  case isFalse =>
    obtain ⟨manifest, hmanifest, hcls⟩ := Resolved.bind_eq_ok_iff.mp hcls
    obtain rfl := Except.ok.inj hcls
    have hbuilds := Resolver.builds_of_struct (fun h => Resolver.builds_of_resolve h) hmanifest
    refine ⟨List.perm_append_comm.trans (perm_defines [_] [_] manifest), fun htakes => ?_, ?_⟩
    · exact ImportMap.contains_merge.mpr (.inr (ImportMap.contains_merge.mpr (.inr
        (contains_of_takes hbuilds rfl rfl htakes))))
    · exact (admits_builderImports rfl accounts).merge
        (admits_layoutImports.merge (admits_of_builds hbuilds List.mem_cons_self))

/-! ### Types -/

variable {type : DefinedType} {manifest : Manifest}

theorem fits_struct {fields : List FieldManifest}
    (hbuilds : Resolver.Builds ⟨dictionary, program.name⟩ type.type
      (.root (className type.name) .type) manifest) :
    (structPage type manifest fields).Fits dictionary
      { program
        classes := className type.name :: manifest.classNames
        types := [type.type] } where
  defines := perm_defines [] [_] manifest
  takes h := ImportMap.contains_merge.mpr (.inr (contains_of_takes hbuilds rfl rfl h))
  imports := admits_layoutImports.merge (admits_of_builds hbuilds List.mem_cons_self)

/-- The page of an enum imports the classes of all its variants. -/
theorem contains_foldl_variants {stem : String} {variants : List VariantManifest}
    {imports : ImportMap} :
    (variants.foldl (fun imports variant => imports.add (variantModule stem variant)
        (classSymbols variant.name)) imports).contains module symbol = true ↔
      imports.contains module symbol = true ∨
        ∃ variant ∈ variants, variantModule stem variant = module ∧
          symbol ∈ classSymbols variant.name := by
  induction variants generalizing imports with
  | nil => simp
  | cons variant variants ih =>
    rw [List.foldl_cons, ih, ImportMap.contains_add]
    simp [or_assoc]

theorem fits_enum (size : NumberFormat) (variants : List VariantManifest)
    (hbuilds : Resolver.Builds ⟨dictionary, program.name⟩ type.type
      (.root (className type.name) .type) manifest) :
    (enumPage type manifest size variants).Fits dictionary
      { program
        names := [className type.name]
        classes := manifest.classNames
        types := [type.type]
        variants := variants.map fun variant => (type.name, variant.name) } where
  defines := perm_defines [_] [] manifest
  takes h := by
    refine contains_foldl_variants.mpr ?_
    cases h with
    | link htype hdraws =>
      obtain rfl := List.mem_singleton.mp htype
      exact .inl (ImportMap.contains_merge.mpr (.inr (Resolver.contains_of_draws hbuilds hdraws)))
    | variant hmem hsymbol =>
      obtain ⟨variant, hvariant, hpair⟩ := List.mem_map.mp hmem
      obtain ⟨rfl, rfl⟩ := Prod.mk.inj hpair
      exact .inr ⟨variant, hvariant, rfl, hsymbol⟩
  imports := by
    refine ImportMap.Within.foldl (fun variant hvariant imports himports => ?_)
      (admits_layoutImports.merge (admits_of_builds hbuilds List.mem_cons_self))
    refine himports.add fun symbol hsymbol => .inl ?_
    exact .variant (List.mem_map.mpr ⟨variant, hvariant, rfl⟩) hsymbol

theorem fits_variant (variant : VariantManifest)
    (hbuilds : Resolver.Builds ⟨dictionary, program.name⟩ type.type
      (.root (className type.name) .type) manifest) :
    (variantPage (fileStem type.name) manifest variant).Fits dictionary
      { program
        classes := [variant.name]
        types := [type.type]
        whole := if manifest.declarations.isEmpty then none else some type.name } where
  defines := .refl _
  takes h := by
    have hcontains : (layoutImports.merge manifest.imports).contains _ _ = true :=
      ImportMap.contains_merge.mpr (.inr (contains_of_takes hbuilds rfl rfl h))
    show (if manifest.declarations.isEmpty then layoutImports.merge manifest.imports
      else _).contains _ _ = true
    split
    · exact hcontains
    · exact ImportMap.contains_addModule.mpr (.inl hcontains)
  imports := by
    show Outline.Admits _ _ (if manifest.declarations.isEmpty then
      layoutImports.merge manifest.imports else _)
    split
    case isTrue => exact admits_layoutImports.merge (admits_of_builds hbuilds List.mem_cons_self)
    case isFalse =>
      refine (admits_layoutImports.merge (admits_of_builds hbuilds List.mem_cons_self)).addModule ?_
      exact .inr ⟨type.name, rfl, rfl⟩

theorem fits_alias
    (hbuilds : Resolver.Builds ⟨dictionary, program.name⟩ type.type
      (.root (className type.name) .type) manifest) :
    (aliasPage type manifest).Fits dictionary
      { program
        names := [className type.name]
        classes := manifest.classNames
        types := [type.type] } where
  defines := perm_defines [_] [] manifest
  takes h := by
    have hcontains := contains_of_takes hbuilds rfl rfl h
    show (if manifest.declarations.isEmpty then manifest.imports else _).contains _ _ = true
    split
    · exact hcontains
    · exact ImportMap.contains_merge.mpr (.inr hcontains)
  imports := by
    show Outline.Admits _ _ (if manifest.declarations.isEmpty then manifest.imports else _)
    split
    · exact admits_of_builds hbuilds List.mem_cons_self
    · exact admits_layoutImports.merge (admits_of_builds hbuilds List.mem_cons_self)

theorem fits_of_unitOutlines {content : UnitContent} {page : Page} {outline : Outline}
    (h : UnitOutlines dictionary program content page outline) :
    page.Fits dictionary outline := by
  cases h with
  | program hpage => exact fits_program hpage
  | errors hpage => exact fits_errors hpage
  | pda hpage => exact fits_pda hpage
  | account hcls => exact fits_account hcls
  | instruction hcls => exact fits_instruction _ hcls
  | struct hmanifest => exact fits_struct (Resolver.builds_of_resolve hmanifest)
  | enum hmanifest => exact fits_enum _ _ (Resolver.builds_of_resolve hmanifest)
  | variant hmanifest => exact fits_variant _ (Resolver.builds_of_resolve hmanifest)
  | synonym hmanifest => exact fits_alias (Resolver.builds_of_resolve hmanifest)

/-- **A page fits its outline.** -/
theorem fits_of_outlines {root : Root} {settings : Settings} {page : Page} {outline : Outline}
    (h : Outlines root settings page outline) : page.Fits (.ofRoot root) outline := by
  cases h with
  | encoders => exact fits_encoders
  | index paths => exact fits_index paths _
  | unit _ _ h => exact fits_of_unitOutlines h

end Fits

end DartClient
