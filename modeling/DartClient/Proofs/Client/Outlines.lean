import DartClient.Proofs.Client.Units
import DartClient.Proofs.Manifest.Needs
import DartClient.Proofs.Page.Origins
import DartClient.Proofs.Page.Paths

/-!
# What pages are made of

A page is made for a unit of the description. Its outline tells what the page defines: functions and
classes without a layout, and classes with one. It tells as well where the page takes symbols from:
the types that are resolved for it, whose links lead to the files of other types, and the variants
of its own enum, which have files of their own. Besides, every page may need what all generated code
needs: libraries, the encoders of numbers and the address of the program.

Each symbol that all generated code needs comes from one module, whatever the program is called.

## Main definitions

* `Outline`: what a page is made of.
* `Outline.Takes`: the symbols that a page takes from the files of types and variants.
* `IsCommon`: what all generated code may need.
* `UnitOutlines`, `Outlines`: the pages of units and of clients with their outlines.

## Main results

* `exists_outline_of_mem_clientPages`: every page of a client has an outline.
* `eq_of_isCommon`: what all generated code needs comes from one module.
-/

namespace DartClient

open Idl (Root Program Account Instruction DefinedType Pda PdaSeed TypeNode NumberFormat)

/-- The type of a seed that is given when the address is derived. -/
def Idl.PdaSeed.type? : PdaSeed → Option TypeNode
  | .constant _ _ => none
  | .variable _ type _ => some type

/-! ## Outlines -/

/-- What a page is made of. -/
structure Outline where
  /-- The program that it belongs to; pages of the whole package go with the first one. -/
  program : Program
  /-- The functions that it defines, and the classes without a layout. -/
  names : List String := []
  /-- The classes with a layout that it defines. -/
  classes : List String := []
  /-- The types that are resolved for it. -/
  types : List TypeNode := []
  /-- The variants that it exports, each behind the name of its type. -/
  variants : List (String × String) := []
  /-- The type whose file it imports as a whole. -/
  whole : Option String := none

/-- A page takes a symbol from the file of another type or of a variant. -/
inductive Outline.Takes (dictionary : Dictionary) (outline : Outline) : String → String → Prop
  | link {type : TypeNode} {module symbol : String} (htype : type ∈ outline.types)
      (h : Resolver.Draws ⟨dictionary, outline.program.name⟩ type module symbol) :
      Takes dictionary outline module symbol
  | variant {type variant symbol : String} (hvariant : (type, variant) ∈ outline.variants)
      (hsymbol : symbol ∈ classSymbols variant) :
      Takes dictionary outline (generatedModule ("types/" ++ fileStem type) (fileStem variant))
        symbol

/-- The encoders of numbers. -/
def encoderNames : List String := NumberFormat.allFixed.map encoderName ++ [encoderName .shortU16]

/-- The symbols of libraries that generated code needs, and the encoders. -/
def commonSymbols : List (String × String) :=
  ("ByteData" :: "Endian" :: NumberFormat.allFixed.filterMap typedList?).map
    (fun list => (typedDataModule, list)) ++
  [(solanaModule, addressSymbol), (convertModule, "utf8")] ++
  ["AccountMeta", "ByteArray", "Instruction"].map (fun symbol => (encoderAlias, symbol)) ++
  encoderNames.map fun encoder => (encoderModule, encoder)

/-- The generated code of a program may need a symbol whatever it is made of. -/
def IsCommon (program : Program) (module symbol : String) : Prop :=
  (module, symbol) ∈ commonSymbols ∨ (module = generatedModule "programs" (fileStem program.name) ∧
    symbol = programClass program.name)

/-- The pages of a unit with their outlines. -/
inductive UnitOutlines (dictionary : Dictionary) (program : Program) :
    UnitContent → Page → Outline → Prop
  | program {page : Page} (hpage : programPage program = .ok page) :
    UnitOutlines dictionary program .program page
      { program, names := [programClass program.name] }
  | errors {page : Page} (hpage : errorsPage? program = some page) :
    UnitOutlines dictionary program .errors page { program, names := [errorsClass program.name] }
  | pda {pda : Pda} {page : Page} {diagnostics : List Diagnostic}
      (hpage : Resolver.pdaPage ⟨dictionary, program.name⟩ program pda =
        .ok ⟨[page], diagnostics⟩) :
    UnitOutlines dictionary program (.pda pda) page
      { program
        names := [pdaFunction pda.name]
        types := pda.seeds.filterMap PdaSeed.type? }
  | account {cls : AccountClass}
      (hcls : Resolver.accountClass ⟨dictionary, program.name⟩ cls.account = .ok cls) :
    UnitOutlines dictionary program (.account cls.account) cls.page
      { program
        classes := cls.name :: cls.manifest.classNames
        types := [cls.account.data] }
  | instruction {instruction : Instruction} {accounts : List BuilderAccount}
      {discriminator : Discriminator} {cls : Option ArgumentClass}
      (hcls : Resolver.argumentClass? ⟨dictionary, program.name⟩ instruction discriminator =
        .ok cls) :
    UnitOutlines dictionary program (.instruction instruction)
      (instructionPageOf instruction accounts program discriminator cls)
      { program
        names := [instructionFunction instruction.name]
        classes := (cls.map fun cls => cls.name :: cls.manifest.classNames).getD []
        types := [.struct (instruction.arguments.map Idl.Argument.toField)] }
  | struct {type : DefinedType} {manifest : Manifest} {fields : List FieldManifest}
      (hmanifest : Resolver.resolve ⟨dictionary, program.name⟩ type.type
        (.root (className type.name) .type) = .ok manifest)
      (hshape : manifest.shape = .struct fields) :
    UnitOutlines dictionary program (.definedType type) (structPage type manifest fields)
      { program
        classes := className type.name :: manifest.classNames
        types := [type.type] }
  | enum {type : DefinedType} {manifest : Manifest} {size : NumberFormat}
      {variants : List VariantManifest}
      (hmanifest : Resolver.resolve ⟨dictionary, program.name⟩ type.type
        (.root (className type.name) .type) = .ok manifest)
      (hshape : manifest.shape = .enum size variants) :
    UnitOutlines dictionary program (.definedType type) (enumPage type manifest size variants)
      { program
        names := [className type.name]
        classes := manifest.classNames
        types := [type.type]
        variants := variants.map fun variant => (type.name, variant.name) }
  | variant {type : DefinedType} {manifest : Manifest} {size : NumberFormat}
      {variants : List VariantManifest} {variant : VariantManifest}
      (hmanifest : Resolver.resolve ⟨dictionary, program.name⟩ type.type
        (.root (className type.name) .type) = .ok manifest)
      (hshape : manifest.shape = .enum size variants) (hvariant : variant ∈ variants) :
    UnitOutlines dictionary program (.definedType type)
      (variantPage (fileStem type.name) manifest variant)
      { program
        classes := [variant.name]
        types := [type.type]
        whole := if manifest.declarations.isEmpty then none else some type.name }
  | synonym {type : DefinedType} {manifest : Manifest}
      (hmanifest : Resolver.resolve ⟨dictionary, program.name⟩ type.type
        (.root (className type.name) .type) = .ok manifest)
      (hshape : manifest.shape = .plain) :
    UnitOutlines dictionary program (.definedType type) (aliasPage type manifest)
      { program
        names := [className type.name]
        classes := manifest.classNames
        types := [type.type] }

/-- The pages of a client with their outlines. -/
inductive Outlines (root : Root) (settings : Settings) : Page → Outline → Prop
  | encoders : Outlines root settings encoderPage
      { program := root.program
        names := encoderNames }
  | index (paths : List String) :
    Outlines root settings (libraryIndex paths settings.libraryName) { program := root.program }
  | unit {part : ClientUnit} {program : Program} {page : Page} {outline : Outline}
      (hpart : part ∈ root.units) (hprogram : part.program? = some program)
      (h : UnitOutlines (.ofRoot root) program part.content page outline) :
    Outlines root settings page outline

/-- The pages of a unit have outlines. -/
theorem exists_unitOutlines {part : ClientUnit} {dictionary : Dictionary} {settings : Settings}
    {program : Program} {rendering : Rendering} (hprogram : part.program? = some program)
    (hgenerate : part.generate dictionary settings = .ok rendering) :
    ∀ page ∈ rendering.pages, ∃ outline, UnitOutlines dictionary program part.content page
      outline := by
  -- Every kind of content has its own way to make pages, and one outline for each of them.
  rw [ClientUnit.generate, hprogram] at hgenerate
  cases hcontent : part.content with
  | account account =>
    rw [hcontent] at hgenerate
    obtain ⟨cls, hcls, hgenerate⟩ := Resolved.bind_eq_ok_iff.mp hgenerate
    obtain rfl := Except.ok.inj hgenerate
    obtain ⟨manifest, hmanifest, hmade⟩ := Resolved.bind_eq_ok_iff.mp hcls
    obtain ⟨discriminator, hdiscriminator, hmade⟩ := Resolved.bind_eq_ok_iff.mp hmade
    obtain rfl := Except.ok.inj hmade
    intro page hpage
    obtain rfl := List.mem_singleton.mp hpage
    exact ⟨_, @UnitOutlines.account dictionary program ⟨account, manifest, discriminator⟩ hcls⟩
  | instruction instruction =>
    rw [hcontent] at hgenerate
    obtain ⟨accounts, -, hgenerate⟩ := Resolved.bind_eq_ok_iff.mp hgenerate
    obtain ⟨discriminator, -, hgenerate⟩ := Resolved.bind_eq_ok_iff.mp hgenerate
    obtain ⟨cls, hcls, hgenerate⟩ := Resolved.bind_eq_ok_iff.mp hgenerate
    obtain rfl := Except.ok.inj hgenerate
    intro page hpage
    obtain rfl := List.mem_singleton.mp hpage
    exact ⟨_, .instruction hcls⟩
  | definedType type =>
    rw [hcontent] at hgenerate
    obtain ⟨manifest, hmanifest, hgenerate⟩ := Resolved.bind_eq_ok_iff.mp hgenerate
    obtain rfl := Except.ok.inj hgenerate
    intro page hpage
    have hpage : page ∈ typePagesOf type manifest := hpage
    unfold typePagesOf at hpage
    split at hpage
    case h_1 fields hshape =>
      obtain rfl := List.mem_singleton.mp hpage
      exact ⟨_, .struct hmanifest hshape⟩
    case h_2 size variants hshape =>
      rcases List.mem_cons.mp hpage with rfl | hpage
      · exact ⟨_, .enum hmanifest hshape⟩
      · obtain ⟨variant, hvariant, rfl⟩ := List.mem_map.mp hpage
        exact ⟨_, .variant hmanifest hshape hvariant⟩
    case h_3 hshape =>
      obtain rfl := List.mem_singleton.mp hpage
      exact ⟨_, .synonym hmanifest hshape⟩
  | pda pda =>
    rw [hcontent] at hgenerate
    have hmade := hgenerate
    obtain ⟨⟨helper, diagnostics, imports⟩, -, hmade⟩ := Resolved.bind_eq_ok_iff.mp hmade
    obtain rfl := Except.ok.inj hmade
    intro page hpage
    obtain rfl := List.mem_singleton.mp hpage
    exact ⟨_, .pda hgenerate⟩
  | program =>
    rw [hcontent] at hgenerate
    obtain ⟨programPage, hprogramPage, hgenerate⟩ := Resolved.bind_eq_ok_iff.mp hgenerate
    obtain rfl := Except.ok.inj hgenerate
    intro page hpage
    obtain rfl := List.mem_singleton.mp hpage
    exact ⟨_, .program hprogramPage⟩
  | errors =>
    rw [hcontent] at hgenerate
    obtain rfl := Except.ok.inj hgenerate
    intro page hpage
    exact ⟨_, .errors (Option.mem_toList.mp hpage)⟩

/-- **Every page of a client has an outline.** -/
theorem exists_outline_of_mem_clientPages {root : Root} {settings : Settings} {page : Page}
    (hpage : page ∈ clientPages (unitResults root settings) settings) :
    ∃ outline, Outlines root settings page outline := by
  rcases exists_unit_of_mem_clientPages hpage with
    rfl | ⟨paths, rfl⟩ | ⟨part, hpart, rendering, hgenerate, hpage⟩
  · exact ⟨_, .encoders⟩
  · exact ⟨_, .index paths⟩
  · obtain ⟨program, -, hprogram⟩ := exists_program_of_mem_units hpart
    obtain ⟨outline, houtline⟩ := exists_unitOutlines hprogram hgenerate page hpage
    exact ⟨outline, .unit hpart hprogram houtline⟩

/-! ## What all generated code needs -/

section Common

variable {program : Program} {module other symbol : String}

theorem isCommon_of_mem (h : (module, symbol) ∈ commonSymbols) : IsCommon program module symbol :=
  .inl h

theorem isCommon_program :
    IsCommon program (generatedModule "programs" (fileStem program.name))
      (programClass program.name) := .inr ⟨rfl, rfl⟩

theorem isCommon_encoder (format : NumberFormat) :
    IsCommon program encoderModule (encoderName format) := by
  left
  cases format <;> decide

theorem isCommon_of_leafImport (h : Resolver.LeafImport module symbol) :
    IsCommon program module symbol := by
  left
  cases h with
  | @typedList format list hlist => cases format <;> cases hlist <;> decide
  | address => decide

/-- The class of a program ends in a letter that no other common symbol ends in. -/
theorem programClass_not_mem : (module, programClass program.name) ∉ commonSymbols := by
  have hends : ∀ pair ∈ commonSymbols, pair.2.toList.getLast? ≠ some 'm' := by decide
  intro hmem
  refine hends _ hmem ?_
  rw [programClass, String.toList_append, List.getLast?_append]
  rfl

/-- **A common symbol comes from one module.** -/
theorem eq_of_isCommon (h : IsCommon program module symbol)
    (hother : IsCommon program other symbol) : module = other := by
  have hdistinct : (commonSymbols.map Prod.snd).Nodup := by decide
  rcases h with h | ⟨rfl, rfl⟩
  · rcases hother with hother | ⟨-, rfl⟩
    · exact congrArg Prod.fst (List.inj_on_of_nodup_map hdistinct h hother rfl)
    · exact absurd h programClass_not_mem
  · rcases hother with hother | ⟨rfl, -⟩
    · exact absurd hother programClass_not_mem
    · rfl

end Common

end DartClient
