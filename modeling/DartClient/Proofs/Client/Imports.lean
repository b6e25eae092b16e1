import DartClient.Proofs.Client.Fitting
import DartClient.Proofs.Client.Places
import DartClient.Proofs.Page.Offers
import DartClient.Proofs.Page.Origins
import Mathlib.Data.List.Nodup

/-!
# Imports of generated files never dangle

In a complete client, whatever a page imports of another generated file is there: the path leads to
a page of the client, and the page offers every symbol that is shown of it. The importing page names
path and symbols by what it knows of a link, a seed or a program, the page itself is made from the
declaration, each with a resolution of its own; here both are brought together, for whatever an
outline tells of a page.

## Main results

* `leads_of_link`: what a link shows is offered by the page of its target.
* `settled_of_mem_clientPages`: the imports of all pages are settled.
* `import_leads_to_page`: what a page imports of another generated file is there.
-/

namespace DartClient

open Idl (Root Program DefinedType)

/-! ## What is there -/

section Targets

variable {root : Root} {settings : Settings} {program : Program}

/-- A declared type is resolved in its unit, and its pages are pages of the client. -/
theorem exists_manifest_of_typeUnit (hcomplete : (generateClient root settings).isComplete = true)
    {part : ClientUnit} (hpart : part ∈ root.units) (hprogram : part.program? = some program)
    {type : DefinedType} (hcontent : part.content = .definedType type) :
    ∃ manifest, Resolver.resolve ⟨.ofRoot root, program.name⟩ type.type
        (.root (className type.name) .type) = .ok manifest ∧
      ∀ page ∈ typePagesOf type manifest,
        page ∈ clientPages (unitResults root settings) settings := by
  obtain ⟨rendering, hgenerate, hpages⟩ := exists_pages_of_mem_units hcomplete hpart
  rw [ClientUnit.generate, hprogram, hcontent] at hgenerate
  obtain ⟨manifest, hmanifest, hrendering⟩ := Resolved.bind_eq_ok_iff.mp hgenerate
  obtain rfl := Except.ok.inj hrendering
  exact ⟨manifest, hmanifest, hpages⟩

/-- What a link shows is offered by the page of its target. -/
theorem leads_of_link (hcomplete : (generateClient root settings).isComplete = true)
    {program link : String} {linkedProgram : Option String} {defined : DefinedType}
    (htarget : Resolver.target ⟨.ofRoot root, program⟩ link linkedProgram = some defined)
    {symbol : String} (hshows : Shows link defined symbol) :
    LeadsToSymbol (clientPages (unitResults root settings) settings)
      (generatedModule "types" (fileStem link)) symbol := by
  obtain ⟨program, hprogram, hdefined, rfl⟩ := Dictionary.exists_program_of_definedType? htarget
  -- The unit of the target resolves its type once more, on behalf of its own program.
  obtain ⟨part, hpart, hcontent, hown⟩ := exists_typeUnit hprogram hdefined
  obtain ⟨manifest, hmanifest, hpages⟩ :=
    exists_manifest_of_typeUnit hcomplete hpart hown hcontent
  exact .inr ⟨.type defined.name, typePage defined manifest, hpages _ (typePage_mem _ _),
    path_typePage _ _, offers_of_shows (Resolver.builds_of_resolve hmanifest) hpages hshows⟩

/-- The class of a program is defined on its page. -/
theorem leads_to_program (hcomplete : (generateClient root settings).isComplete = true)
    (hprogram : program ∈ root.programs) :
    LeadsToSymbol (clientPages (unitResults root settings) settings)
      (generatedModule "programs" (fileStem program.name)) (programClass program.name) := by
  obtain ⟨part, hpart, hcontent, hown⟩ := exists_programUnit hprogram
  obtain ⟨rendering, hgenerate, hpages⟩ := exists_pages_of_mem_units hcomplete hpart
  rw [ClientUnit.generate, hown, hcontent] at hgenerate
  obtain ⟨page, hpage, hrendering⟩ := Resolved.bind_eq_ok_iff.mp hgenerate
  obtain rfl := Except.ok.inj hrendering
  obtain ⟨address, -, hpage⟩ := Resolved.bind_eq_ok_iff.mp hpage
  obtain rfl := Except.ok.inj hpage
  exact .inr ⟨.program program.name, _, hpages _ List.mem_cons_self, rfl,
    .inl List.mem_cons_self⟩

end Targets

/-! ## Settled pages -/

section Settled

variable {root : Root} {settings : Settings} {page : Page} {outline : Outline}

theorem program_mem_of_outlines (h : Outlines root settings page outline) :
    outline.program ∈ root.programs := by
  cases h with
  | encoders | index => exact List.mem_cons_self
  | @unit part _ _ _ hpart hprogram h =>
    obtain ⟨program, hmem, hown⟩ := exists_program_of_mem_units hpart
    obtain rfl := Option.some.inj (hown.symm.trans hprogram)
    generalize part.content = content at h
    cases h <;> exact hmem

/-- The variants that a page exports have pages that define their classes. -/
theorem leads_to_variant (hcomplete : (generateClient root settings).isComplete = true)
    (h : Outlines root settings page outline) {type variant symbol : String}
    (hvariant : (type, variant) ∈ outline.variants) (hsymbol : symbol ∈ classSymbols variant) :
    LeadsToSymbol (clientPages (unitResults root settings) settings)
      (generatedModule ("types/" ++ fileStem type) (fileStem variant)) symbol := by
  cases h with
  | encoders | index => cases hvariant
  | @unit part _ _ _ hpart hprogram h =>
    generalize hcontent : part.content = content at h
    cases h with
    | program | errors | pda | account | instruction | struct | variant | synonym => cases hvariant
    | enum hmanifest hshape =>
      obtain ⟨variant, hmem, hpair⟩ := List.mem_map.mp hvariant
      obtain ⟨rfl, rfl⟩ := Prod.mk.inj hpair
      obtain ⟨manifest, hresolved, hpages⟩ :=
        exists_manifest_of_typeUnit hcomplete hpart hprogram hcontent
      obtain rfl := Except.ok.inj (hmanifest.symm.trans hresolved)
      exact .inr ⟨.variant _ _, _, hpages _ (variantPage_mem hshape hmem), rfl, .inl hsymbol⟩

/-- The type whose file a page imports as a whole has a page. -/
theorem leads_to_whole (hcomplete : (generateClient root settings).isComplete = true)
    (h : Outlines root settings page outline) {type : String}
    (hwhole : outline.whole = some type) :
    LeadsToPage (clientPages (unitResults root settings) settings)
      (generatedModule "types" (fileStem type)) := by
  cases h with
  | encoders | index => cases hwhole
  | @unit part _ _ _ hpart hprogram h =>
    generalize hcontent : part.content = content at h
    cases h with
    | program | errors | pda | account | instruction | struct | enum | synonym => cases hwhole
    | @variant defined manifest _ _ _ hmanifest =>
      obtain ⟨manifest, -, hpages⟩ := exists_manifest_of_typeUnit hcomplete hpart hprogram hcontent
      split at hwhole
      case isTrue => cases hwhole
      case isFalse =>
        obtain rfl := Option.some.inj hwhole
        exact .inr ⟨.type _, _, hpages _ (typePage_mem defined manifest), path_typePage _ _⟩

/-- What all generated code needs comes from an alias, the page of encoders or that of the
program. -/
theorem leads_of_isCommon (hcomplete : (generateClient root settings).isComplete = true)
    {program : Program} (hprogram : program ∈ root.programs) {module symbol : String}
    (h : IsCommon program module symbol) :
    LeadsToSymbol (clientPages (unitResults root settings) settings) module symbol := by
  have hcommon : ∀ pair ∈ commonSymbols, pair.1 ∈ aliasNames ∨
      (pair.1 = encoderModule ∧ pair.2 ∈ encoderNames) := by decide
  rcases h with hmem | ⟨rfl, rfl⟩
  · rcases hcommon _ hmem with halias | ⟨hmodule, hencoder⟩
    · exact .inl (contains_defaultAliases.mpr halias)
    · obtain rfl : module = encoderModule := hmodule
      exact .inr ⟨.encoders, encoderPage, List.mem_cons_self, rfl, .inl hencoder⟩
  · exact leads_to_program hcomplete hprogram

/-- **The imports of all pages are settled.** -/
theorem settled_of_mem_clientPages (hcomplete : (generateClient root settings).isComplete = true)
    (hpage : page ∈ clientPages (unitResults root settings) settings) :
    page.imports.Settled (clientPages (unitResults root settings) settings) := by
  obtain ⟨outline, houtline⟩ := exists_outline_of_mem_clientPages hpage
  refine (fits_of_outlines houtline).imports.mono (fun hincludes => ?_) (fun hnames => ?_)
  · rcases hincludes with rfl | ⟨type, hwhole, rfl⟩
    · exact .inl (contains_defaultAliases.mpr (by decide))
    · exact leads_to_whole hcomplete houtline hwhole
  · rcases hnames with (⟨-, ⟨-, htarget, hshows⟩⟩ | ⟨hvariant, hsymbol⟩) | hcommon
    · exact leads_of_link hcomplete htarget hshows
    · exact leads_to_variant hcomplete houtline hvariant hsymbol
    · exact leads_of_isCommon hcomplete (program_mem_of_outlines houtline) hcommon

end Settled

variable {root : Root} {settings : Settings} {pages : List Page} {page : Page}

/-! ## Following imports -/

/-- A module that is written as no alias is written as the path that leads to a generated file. -/
theorem followed_of_relativeModule {key module path : String} {leads : Prop}
    (hpath : IsPlain path)
    (hkey : Settings.defaultAliases.contains key = true ∨ (IsGenerated key ∧ leads))
    (hmodule : relativeModule key path Settings.defaultAliases = module)
    (hgenerated : Settings.defaultAliases.contains module = false) :
    followedPath? path module = some key ∧ leads := by
  rcases hkey with halias | ⟨hkey, hleads⟩
  · -- An alias stays as it is.
    have hlibrary : isLibraryPath key Settings.defaultAliases = false := by
      simp [isLibraryPath, halias]
    rw [relativeModule, if_neg (Bool.eq_false_iff.mp hlibrary)] at hmodule
    rw [← hmodule, halias] at hgenerated
    cases hgenerated
  · rw [← hmodule]
    exact ⟨followedPath?_relativeModule hpath hkey.isLibraryPath hkey.isPlain, hleads⟩

section Followed

variable {module symbol : String}

/-- An import of a whole generated file leads to a page. -/
theorem exists_page_of_whole (hpath : IsPlain page.path) (hsettled : page.imports.Settled pages)
    (hwhole : (page.finalImports Settings.defaultAliases).Whole module)
    (hgenerated : Settings.defaultAliases.contains module = false) :
    ∃ target ∈ pages, followedPath? page.path module = some target.path := by
  obtain ⟨key, hmodule, hwhole, -⟩ := Page.whole_finalImports.mp hwhole
  obtain ⟨hfollowed, target, htarget, rfl⟩ :=
    followed_of_relativeModule hpath (hsettled.whole hwhole) hmodule hgenerated
  exact ⟨target, htarget, hfollowed⟩

/-- A symbol that is shown of a generated file is offered by the page that the import leads to. -/
theorem exists_page_of_shown (hpath : IsPlain page.path) (hsettled : page.imports.Settled pages)
    (hcontains : (page.finalImports Settings.defaultAliases).contains module symbol = true)
    (hshown : ¬ (page.finalImports Settings.defaultAliases).Whole module)
    (hgenerated : Settings.defaultAliases.contains module = false) :
    ∃ target ∈ pages, followedPath? page.path module = some target.path ∧
      target.Offers pages symbol := by
  obtain ⟨key, hmodule, ⟨hcontains, hother⟩, -⟩ := Page.contains_finalImports.mp hcontains
  rcases hsettled.shown hcontains with hwhole | hleads
  · -- What is imported as a whole stays so.
    exact absurd (Page.whole_finalImports.mpr ⟨key, hmodule, hwhole, hother⟩) hshown
  · obtain ⟨hfollowed, target, htarget, rfl, hoffers⟩ :=
      followed_of_relativeModule hpath hleads hmodule hgenerated
    exact ⟨target, htarget, hfollowed, hoffers⟩

end Followed

/-- The path of a page that imports anything has no dots. The page of the library, whose path may
have some, imports nothing. -/
theorem isPlain_path_of_containsModule {aliases : Aliases} {module : String}
    (hpage : page ∈ clientPages (unitResults root settings) settings)
    (himport : (page.finalImports aliases).containsModule module = true) :
    IsPlain page.path := by
  rcases exists_unit_of_mem_clientPages hpage with
    rfl | ⟨paths, rfl⟩ | ⟨part, hpart, rendering, hgenerate, hpage⟩
  · decide
  · have hproper : ((libraryIndex paths settings.libraryName).finalImports aliases).Proper :=
      ImportMap.proper_mapModules _
    obtain ⟨symbol, hsymbol⟩ := hproper.containsModule_iff_exists.mp himport
    obtain ⟨key, -, ⟨hkey, -⟩, -⟩ := Page.contains_finalImports.mp hsymbol
    cases ImportMap.contains_empty ▸ hkey
  · obtain ⟨program, -, hpart⟩ := List.mem_flatMap.mp hpart
    obtain ⟨folder, name, hfiles, hpath⟩ := files_of_mem_pages
      (liesIn_of_mem_units hpart).program?_eq (declares_of_mem_units hpart) hgenerate hpage
    rw [hpath]
    exact hfiles.isPlain

/-- Where no two pages have one path, every page is written to its file. -/
theorem getElem?_clientFiles {program : String} (hdistinct : (pages.map Page.path).Nodup)
    (hpage : page ∈ pages) : (clientFiles pages settings program)[clientPath settings page]? =
      some (page.render settings.aliases) := by
  have hpubspec := pubspecPath_ne_clientPath settings page
  have hpaths : (pages.map fun page =>
      (clientPath settings page, page.render settings.aliases)).Pairwise
        fun a b => ¬ compare a.1 b.1 = .eq := by
    rw [List.pairwise_map]
    refine (List.pairwise_map.mp hdistinct).imp fun hne heq => hne ?_
    exact (String.append_right_inj _).mp (Std.LawfulEqCmp.eq_of_compare heq)
  rw [clientFiles, Std.ExtTreeMap.getElem?_insert, if_neg (by simpa using hpubspec)]
  exact Std.ExtTreeMap.getElem?_ofList_of_mem Std.ReflCmp.compare_self hpaths
    (List.mem_map_of_mem hpage)

/-- **What a page imports of another generated file is there.** In a complete client whose pages
have paths of their own, let a page import, as it is written down, a module that is no alias. The
path leads from the page to another page of the client, which is written to its file, and every
symbol that is shown of it is defined there or on a page that it exports. -/
theorem import_leads_to_page {module : String} {imported : Imported}
    (haliases : settings.aliases = Settings.defaultAliases)
    (hcomplete : (generateClient root settings).isComplete = true)
    (hdistinct : ((clientPages (unitResults root settings) settings).map Page.path).Nodup)
    (hpage : page ∈ clientPages (unitResults root settings) settings)
    (himport : (page.finalImports settings.aliases).get? module = some imported)
    (hgenerated : settings.aliases.contains module = false) :
    ∃ target ∈ clientPages (unitResults root settings) settings,
      followedPath? page.path module = some target.path ∧
      (generateClient root settings).files[clientPath settings target]? =
        some (target.render settings.aliases) ∧
      ∀ names, imported = .symbols names → ∀ symbol ∈ names,
        target.Offers (clientPages (unitResults root settings) settings) symbol := by
  have hsettled := settled_of_mem_clientPages hcomplete hpage
  have hlisted : (page.finalImports settings.aliases).containsModule module = true := by
    rw [ImportMap.containsModule_iff, himport]
    exact Option.some_ne_none imported
  have hpath : IsPlain page.path := isPlain_path_of_containsModule hpage hlisted
  have hproper : Imported.Proper (some imported) := by
    rw [← himport]
    exact ImportMap.proper_mapModules _ module
  rw [haliases] at himport hgenerated
  cases imported with
  | everything =>
    obtain ⟨target, htarget, hfollowed⟩ := exists_page_of_whole hpath hsettled himport hgenerated
    refine ⟨target, htarget, hfollowed, getElem?_clientFiles hdistinct htarget, ?_⟩
    intro names hnames
    cases hnames
  | symbols names =>
    have hshown : ¬ (page.finalImports Settings.defaultAliases).Whole module := by
      rw [ImportMap.Whole, himport]
      simp
    have hleads : ∀ symbol ∈ names, ∃ target ∈ clientPages (unitResults root settings) settings,
        followedPath? page.path module = some target.path ∧
          target.Offers (clientPages (unitResults root settings) settings) symbol := by
      intro symbol hsymbol
      refine exists_page_of_shown hpath hsettled (ImportMap.contains_iff.mpr ?_) hshown hgenerated
      rw [himport]
      exact hsymbol
    obtain ⟨first, hfirst⟩ := hproper names rfl
    obtain ⟨target, htarget, hfollowed, -⟩ := hleads first hfirst
    refine ⟨target, htarget, hfollowed, getElem?_clientFiles hdistinct htarget, ?_⟩
    rintro _ ⟨⟩ symbol hsymbol
    -- Another symbol is offered by the same page, as there is only one of its path.
    obtain ⟨other, hother, hfollowed', hoffers⟩ := hleads symbol hsymbol
    have hsame : other = target := List.inj_on_of_nodup_map hdistinct hother htarget
      (Option.some.inj (hfollowed'.symm.trans hfollowed))
    rwa [hsame] at hoffers

/-- A point, and a line that starts at one. -/
def drawingTypes : List DefinedType :=
  [⟨"point", .struct [.plain "x" (.littleNumber .u8)], []⟩,
   ⟨"line", .struct [.plain "start" (.defined "point")], []⟩]

/-- A description of a program with those types. -/
def drawing : Root where
  standard := "codama"
  version := "1.0.0"
  program := { Idl.Program.ofTypes "canvas" drawingTypes with
    publicKey := "11111111111111111111111111111111" }
  additionalPrograms := []

/-- The pages of its client. -/
def drawingPages : List Page := clientPages (unitResults drawing .default) .default

/-- The page of the line imports the page of the point, which offers what is shown of it. -/
theorem import_leads_to_page_drawing : ∃ page ∈ drawingPages, ∃ names,
    page.path = "types/line.dart" ∧
    (page.finalImports Settings.defaultAliases).get? "../types/point.dart" =
      some (.symbols names) ∧ "Point" ∈ names ∧
    ∃ target ∈ drawingPages,
      followedPath? "types/line.dart" "../types/point.dart" = some target.path ∧
      (generateClient drawing .default).files[clientPath .default target]? =
        some (target.render Settings.defaultAliases) ∧
      ∀ symbol ∈ names, target.Offers drawingPages symbol := by
  -- Whether the client is complete and what the pages import can be computed.
  have hcomplete : (generateClient drawing .default).isComplete = true := by decide +kernel
  have hdistinct : (drawingPages.map Page.path).Nodup := by decide +kernel
  have hline : ∃ page ∈ drawingPages, page.path = "types/line.dart" ∧
      (page.finalImports Settings.defaultAliases).contains "../types/point.dart" "Point" = true ∧
      (page.finalImports Settings.defaultAliases).get? "../types/point.dart" ≠
        some .everything := by
    decide +kernel
  obtain ⟨page, hpage, hpath, hcontains, hshown⟩ := hline
  rw [ImportMap.contains_iff] at hcontains
  cases himport : (page.finalImports Settings.defaultAliases).get? "../types/point.dart" with
  | none =>
    rw [himport] at hcontains
    exact hcontains.elim
  | some imported =>
    cases imported with
    | everything => exact absurd himport hshown
    | symbols names =>
      rw [himport] at hcontains
      obtain ⟨target, htarget, hfollowed, hfile, hoffers⟩ :=
        import_leads_to_page rfl hcomplete hdistinct hpage himport (by decide)
      rw [hpath] at hfollowed
      exact ⟨page, hpage, names, hpath, himport, hcontains, target, htarget, hfollowed, hfile,
        hoffers names rfl⟩

end DartClient
