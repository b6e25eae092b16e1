import DartClient.Page.Instruction
import DartClient.Proofs.Manifest.Layout
import DartClient.Proofs.Page.Paths
import DartClient.Proofs.Source.PartDirectives

/-!
# Pages and their part files

Each page of an account, an instruction or a defined type is made of items. It has a part file if
and only if one of the items is a class with generated readers: the class of the page itself, a
class beside its type, or a variant with fields. The part file is called like the page.

What the resolver makes up has no line ends, and no line of an item begins as a part directive. So
of the part directives that are read on the page one is its own, and further ones are there only if
a text that is put into the page as it is, such as a piece of documentation, is continued behind a
line end by something that reads as a part directive. The part directive of a page tells whether it
has such a class if and only if there is no such text.

## Main definitions

* `UnitItems`: the items of the pages of accounts, instructions and defined types.
* `Page.PartsFit`: the part directives of a page.

## Main results

* `UnitItems.exists_file`: the file of a page, with a part file if there is a class that needs it.
* `Resolver.partsFit`: the part directives of all pages.
-/

namespace DartClient

open Idl (Account DefinedType Instruction NumberFormat Program)
open SourceFile (partLine)
open Text (OneLine OneLines oneLine_append oneLine_ofList oneLine_toString oneLines_append
  oneLines_cons oneLines_nil unlines)

/-! ## The items of pages -/

/-- The items of a page that is made for an account, an instruction or a defined type, with the name
of its file. -/
inductive UnitItems : Page → String → List Item → Prop
  | account (cls : AccountClass) : UnitItems cls.page cls.stem
      (.record cls.record :: cls.manifest.declarations.flatMap declarationItems)
  | instruction (instruction : Instruction) (accounts : List BuilderAccount) (program : Program)
      (discriminator : Discriminator) (cls : Option ArgumentClass) :
    UnitItems (instructionPageOf instruction accounts program discriminator cls)
      (fileStem instruction.name)
      ((cls.map ArgumentClass.items).getD [] ++
        [.builder ⟨instruction, accounts, programClass program.name, discriminator.bytes⟩])
  | struct (type : DefinedType) (manifest : Manifest) (fields : List FieldManifest) :
    UnitItems (structPage type manifest fields) (fileStem type.name)
      (.record (.plain (className type.name) type.docs fields) ::
        manifest.declarations.flatMap declarationItems)
  | enum (type : DefinedType) (manifest : Manifest) (size : NumberFormat)
      (variants : List VariantManifest) :
    UnitItems (enumPage type manifest size variants) (fileStem type.name)
      (.enum ⟨className type.name, type.docs, size, variants⟩ ::
        manifest.declarations.flatMap declarationItems)
  | variant (type : DefinedType) (manifest : Manifest) (variant : VariantManifest) :
    UnitItems (variantPage (fileStem type.name) manifest variant) (fileStem variant.name)
      [variantItem variant]
  | synonym (type : DefinedType) (manifest : Manifest) :
    UnitItems (aliasPage type manifest) (fileStem type.name)
      (.synonym type.docs (className type.name) manifest.targetType ::
        manifest.declarations.flatMap declarationItems)

theorem any_isRecord_cons_record (record : RecordClass) (items : List Item) :
    (Item.record record :: items).any Item.isRecord = true := rfl

/-! ### Classes without line ends -/

theorem oneLines_discriminator (bytes : List UInt8) :
    OneLines ["static final DISCRIMINATOR = " ++ byteListLiteral bytes ++ ";"] := by
  simp only [oneLines_cons, oneLines_nil, oneLine_append, oneLine_byteListLiteral, and_true]
  and_intros <;> exact oneLine_ofList (by decide)

theorem AccountClass.oneLines_reader (cls : AccountClass) : OneLines cls.reader := by
  have hname : OneLine cls.name := oneLine_className _
  have hdata : OneLine (if cls.isFramed then "data.sublist(DISCRIMINATOR.length)" else "data") := by
    split <;> exact oneLine_ofList (by decide)
  simp only [reader, opening, closing, oneLines_cons, oneLines_nil, oneLine_append, hname,
    RecordClass.oneLine_readCall hname hdata, and_true]
  and_intros <;> exact oneLine_ofList (by decide)

theorem AccountClass.oneLines_constants (cls : AccountClass) : OneLines cls.constants := by
  have hsize : OneLine "static const int SIZE = " := oneLine_ofList (by decide)
  have hend : OneLine ";" := by decide
  unfold constants
  refine oneLines_append.mpr ⟨oneLines_discriminator _, ?_⟩
  cases cls.size? with
  | none => exact oneLines_nil
  | some size =>
    exact oneLines_cons.mpr ⟨(hsize.append (oneLine_toString size)).append hend, oneLines_nil⟩

theorem AccountClass.oneLines_writer (cls : AccountClass) : OneLines cls.writer := by
  unfold writer opening closing
  split
  all_goals
    simp only [oneLines_cons, oneLines_nil, oneLine_append, and_true]
    and_intros <;> exact oneLine_ofList (by decide)

/-- The class of an account has no line ends apart from the documentation. -/
theorem AccountClass.unbroken_record {cls : AccountClass} (h : cls.manifest.Unbroken) :
    cls.record.Unbroken := by
  have hdata : OneLine "data" := by decide
  exact {
    name := oneLine_className _
    fields := h.fields (List.forall_mem_singleton.mpr ⟨hdata, h.targetType, h.codec⟩)
    constants := cls.oneLines_constants
    checks := oneLines_nil
    reader := cls.oneLines_reader
    members := List.forall_mem_singleton.mpr cls.oneLines_writer }

theorem FixedLength.oneLine_demand (length : FixedLength) : OneLine length.demand.2 := by
  have hbytes : OneLine " bytes" := by decide
  have hexactly : OneLine "must be exactly " := by decide
  have helements : OneLine " elements" := by decide
  have hhave : OneLine "must have exactly " := by decide
  cases length with
  | bytes size => exact (hexactly.append (oneLine_toString size)).append hbytes
  | elements count => exact (hhave.append (oneLine_toString count)).append helements

theorem FieldManifest.Unbroken.oneLine_lengthCheck {field : FieldManifest} (h : field.Unbroken)
    {check : String} (hcheck : field.lengthCheck? = some check) : OneLine check := by
  obtain ⟨length, -, rfl⟩ := Option.map_eq_some_iff.mp hcheck
  have hdemand := length.oneLine_demand
  generalize length.demand = pair at hdemand ⊢
  obtain ⟨count, demand⟩ := pair
  have hdigits := oneLine_toString count
  dsimp only at hdemand ⊢
  generalize toString count = digits at hdigits ⊢
  simp only [oneLine_append, h.name, hdemand, hdigits, and_true]
  and_intros <;> exact oneLine_ofList (by decide)

theorem unbroken_discriminatorManifest (discriminator : Discriminator) :
    (discriminatorManifest discriminator).Unbroken := by
  have hname : OneLine discriminatorField := by decide
  have htype : OneLine "Uint8List" := by decide
  exact ⟨hname, htype, Codec.unbroken_bytes _⟩

/-- The class of the arguments of an instruction has no line ends apart from the documentation. -/
theorem ArgumentClass.unbroken_record {cls : ArgumentClass} (h : cls.manifest.Unbroken) :
    cls.record.Unbroken := by
  have hdata : OneLine "data" := by decide
  have hsuffix : OneLine "InstructionData" := by decide
  have hname : OneLine cls.name := (Text.oneLine_upperCamel _).append hsuffix
  have harguments : ∀ field ∈ cls.arguments, field.Unbroken := h.fields (List.forall_mem_nil _)
  have hfields : ∀ field ∈ cls.fields, field.Unbroken := by
    unfold fields
    split
    · exact List.forall_mem_cons.mpr ⟨unbroken_discriminatorManifest _, harguments⟩
    · exact harguments
  have hchecks : OneLines (cls.fields.filterMap FieldManifest.lengthCheck?) := by
    intro check hcheck
    obtain ⟨field, hfield, hcheck⟩ := List.mem_filterMap.mp hcheck
    exact (hfields field hfield).oneLine_lengthCheck hcheck
  have hreader : OneLines [RecordClass.readCall cls.name "data"] :=
    oneLines_cons.mpr ⟨RecordClass.oneLine_readCall hname hdata, oneLines_nil⟩
  exact ⟨hname, hfields, oneLines_discriminator _, hchecks, hreader, List.forall_mem_nil _⟩

namespace UnitItems

variable {page : Page} {stem : String} {items : List Item}

theorem exists_stem (h : UnitItems page stem items) : ∃ name, stem = fileStem name := by
  cases h <;> exact ⟨_, rfl⟩

/-- **A page has a part file** if and only if one of its items is a class with generated readers,
and the part file is called like the page. -/
theorem exists_file (h : UnitItems page stem items) : ∃ folder exports,
    page.path = generatedModule folder stem ∧
      page.body = unlines (SourceFile.lines
        ⟨exports, if items.any Item.isRecord then some stem else none, items⟩) ∧
      ∀ path ∈ exports.getD [], OneLine path := by
  have hnone : ∀ path ∈ (none : Option (List String)).getD [], OneLine path :=
    fun _ hpath => absurd hpath List.not_mem_nil
  -- In each case the page tells its part in its own way, and the items tell the same.
  cases h with
  | account cls =>
    refine ⟨"accounts", none, rfl, ?_, hnone⟩
    rw [if_pos (any_isRecord_cons_record _ _), AccountClass.page, Page.ofSource, AccountClass.file]
  | struct type manifest fields =>
    refine ⟨"types", none, rfl, ?_, hnone⟩
    rw [if_pos (any_isRecord_cons_record _ _), structPage, Page.ofSource]
  | instruction instruction accounts program discriminator cls =>
    refine ⟨"instructions", none, rfl, ?_, hnone⟩
    cases cls with
    | none =>
      have hbuilder (builder : Builder) : [Item.builder builder].any Item.isRecord = false := rfl
      simp only [instructionPageOf, Page.ofSource, Option.map_none, Option.getD_none,
        List.nil_append, hbuilder, Bool.false_eq_true, if_false]
    | some cls =>
      simp only [instructionPageOf, Page.ofSource, Option.map_some, Option.getD_some,
        ArgumentClass.items, List.cons_append, any_isRecord_cons_record, if_true]
  | enum type manifest size variants =>
    refine ⟨"types", some (variants.map fun variant =>
      generatedModule (fileStem type.name) (fileStem variant.name)), rfl, ?_, ?_⟩
    · rw [List.any_cons, any_isRecord_flatMap, enumPage, Page.ofSource, declarationPart]
      rfl
    · intro path hpath
      obtain ⟨variant, -, rfl⟩ := List.mem_map.mp hpath
      simp only [generatedModule, Text.oneLine_append]
      exact ⟨⟨⟨Text.oneLine_snake _, by decide⟩, Text.oneLine_snake _⟩, by decide⟩
  | synonym type manifest =>
    refine ⟨"types", none, rfl, ?_, hnone⟩
    rw [List.any_cons, any_isRecord_flatMap, aliasPage, Page.ofSource, declarationPart]
    rfl
  | variant type manifest variant =>
    refine ⟨"types/" ++ fileStem type.name, none, rfl, ?_, hnone⟩
    have hpart (empty : Bool) : (if empty = true then none else some (fileStem variant.name)) =
        if (!empty) = true then some (fileStem variant.name) else none := by
      cases empty <;> rfl
    rw [List.any_cons, List.any_nil, isRecord_variantItem, Bool.or_false, variantPage,
      Page.ofSource, hpart]

/-- The part directives of a page are its own, if there is a class with generated readers, and
those behind line ends in the prose of its items. -/
theorem partDirectives_body (h : UnitItems page stem items)
    (hitems : ∀ item ∈ items, item.Unbroken) : partDirectives page.body =
    (if items.any Item.isRecord then [(partLine stem).toList] else []) ++ strayDirectives items := by
  obtain ⟨folder, exports, -, hbody, hexports⟩ := h.exists_file
  obtain ⟨name, rfl⟩ := h.exists_stem
  rw [hbody, SourceFile.partDirectives_unlines hexports ?_ hitems]
  · split <;> rfl
  · intro stem hstem
    obtain ⟨-, hstem⟩ := Option.ite_none_right_eq_some.mp hstem
    rw [← Option.some.inj hstem]
    exact Text.oneLine_snake name

end UnitItems

/-! ## The part directives of pages -/

/-- A page is made of items, and its part file is called like the page and is there if and only if
one of the items is a class with generated readers. The part directives that are read on the page
are the one for this file and those behind line ends in the prose of the items. So there is the one
for such a class and none without if and only if nothing behind a line end there reads as a part
directive, and always if the prose has no line ends. -/
def Page.PartsFit (page : Page) : Prop :=
  ∃ stem items folder exports, UnitItems page stem items ∧
    page.path = generatedModule folder stem ∧
    page.body = unlines (SourceFile.lines
      ⟨exports, if items.any Item.isRecord then some stem else none, items⟩) ∧
    partDirectives page.body =
      (if items.any Item.isRecord then [(partLine stem).toList] else []) ++
        strayDirectives items ∧
    (partDirectives page.body =
      (if items.any Item.isRecord then [(partLine stem).toList] else []) ↔
        strayDirectives items = []) ∧
    (OneLines (items.flatMap Item.prose) → partDirectives page.body =
      if items.any Item.isRecord then [(partLine stem).toList] else [])

theorem UnitItems.fits {page : Page} {stem : String} {items : List Item}
    (h : UnitItems page stem items) (hitems : ∀ item ∈ items, item.Unbroken) : page.PartsFit := by
  obtain ⟨folder, exports, hpath, hbody, -⟩ := h.exists_file
  have hdirectives := h.partDirectives_body hitems
  refine ⟨stem, items, folder, exports, h, hpath, hbody, hdirectives, ?_, fun hprose => ?_⟩
  · rw [hdirectives, List.append_right_eq_self]
  · rw [hdirectives, strayDirectives_of_oneLines hprose, List.append_nil]

namespace Resolver

variable {resolver : Resolver}

theorem unbroken_accountContext (account : Account) : (accountContext account).Unbroken := by
  have hname := oneLine_className account.name
  have hroot := ResolveContext.unbroken_root hname .account
  have hdata : OneLine "Data" := by decide
  unfold accountContext
  split
  · exact hroot
  · exact hroot.field hdata

theorem unbroken_items_of_accountClass {account : Account} {cls : AccountClass}
    (h : resolver.accountClass account = .ok cls) : ∀ item ∈
      .record cls.record :: cls.manifest.declarations.flatMap declarationItems, item.Unbroken := by
  obtain ⟨manifest, hmanifest, h⟩ := Resolved.bind_eq_ok_iff.mp h
  obtain ⟨discriminator, -, h⟩ := Resolved.bind_eq_ok_iff.mp h
  obtain rfl := Except.ok.inj h
  have hmanifest : manifest.Unbroken :=
    unbroken_of_resolve (unbroken_accountContext account) hmanifest
  exact List.forall_mem_cons.mpr
    ⟨AccountClass.unbroken_record hmanifest, hmanifest.unbroken_items⟩

theorem partsFit_of_accountPage {account : Account} {rendering : Rendering}
    (h : resolver.accountPage account = .ok rendering) :
    ∀ page ∈ rendering.pages, page.PartsFit := by
  obtain ⟨cls, hcls, h⟩ := Resolved.bind_eq_ok_iff.mp h
  obtain rfl := Except.ok.inj h
  exact List.forall_mem_singleton.mpr
    ((UnitItems.account cls).fits (unbroken_items_of_accountClass hcls))

theorem unbroken_items_of_argumentClass? {instruction : Instruction} {discriminator : Discriminator}
    {cls : Option ArgumentClass} (h : resolver.argumentClass? instruction discriminator = .ok cls) :
    ∀ item ∈ (cls.map ArgumentClass.items).getD [], item.Unbroken := by
  unfold argumentClass? at h
  split at h
  · obtain rfl := Except.ok.inj h
    exact List.forall_mem_nil _
  · obtain ⟨manifest, hmanifest, h⟩ := Resolved.bind_eq_ok_iff.mp h
    obtain rfl := Except.ok.inj h
    have hsuffix : OneLine "InstructionData" := by decide
    have hname : OneLine (instructionDataClass instruction.name) :=
      (Text.oneLine_upperCamel _).append hsuffix
    have hmanifest : manifest.Unbroken :=
      unbroken_of_resolveArguments (ResolveContext.unbroken_root hname .instruction) hmanifest
    exact List.forall_mem_cons.mpr
      ⟨ArgumentClass.unbroken_record hmanifest, hmanifest.unbroken_items⟩

theorem partsFit_of_instructionPage {instruction : Instruction} {accounts : List BuilderAccount}
    {program : Program} {rendering : Rendering}
    (h : resolver.instructionPage instruction accounts program = .ok rendering) :
    ∀ page ∈ rendering.pages, page.PartsFit := by
  obtain ⟨discriminator, -, h⟩ := Resolved.bind_eq_ok_iff.mp h
  obtain ⟨cls, hcls, h⟩ := Resolved.bind_eq_ok_iff.mp h
  obtain rfl := Except.ok.inj h
  refine List.forall_mem_singleton.mpr
    ((UnitItems.instruction instruction accounts program discriminator cls).fits ?_)
  exact List.forall_mem_append.mpr
    ⟨unbroken_items_of_argumentClass? hcls, List.forall_mem_singleton.mpr trivial⟩

theorem unbroken_of_type {type : DefinedType} {manifest : Manifest}
    (h : resolver.resolve type.type (.root (className type.name) .type) = .ok manifest) :
    manifest.Unbroken :=
  unbroken_of_resolve (ResolveContext.unbroken_root (oneLine_className type.name) .type) h

theorem unbroken_items_of_enum {type : DefinedType} {manifest : Manifest} {size : NumberFormat}
    {variants : List VariantManifest} (h : manifest.Unbroken)
    (hshape : manifest.shape = .enum size variants) : ∀ item ∈
      .enum ⟨className type.name, type.docs, size, variants⟩ ::
        manifest.declarations.flatMap declarationItems, item.Unbroken := by
  have hvariants := h.shape
  rw [hshape] at hvariants
  exact List.forall_mem_cons.mpr ⟨⟨oneLine_className type.name, hvariants⟩, h.unbroken_items⟩

theorem unbroken_item_of_variant {manifest : Manifest} {size : NumberFormat}
    {variants : List VariantManifest} {variant : VariantManifest} (h : manifest.Unbroken)
    (hshape : manifest.shape = .enum size variants) (hvariant : variant ∈ variants) :
    ∀ item ∈ [variantItem variant], item.Unbroken := by
  have hvariants := h.shape
  rw [hshape] at hvariants
  exact List.forall_mem_singleton.mpr (hvariants variant hvariant).unbroken_item

theorem partsFit_of_typePages {type : DefinedType} {rendering : Rendering}
    (h : resolver.typePages type = .ok rendering) :
    ∀ page ∈ rendering.pages, page.PartsFit := by
  obtain ⟨manifest, hmanifest, h⟩ := Resolved.bind_eq_ok_iff.mp h
  obtain rfl := Except.ok.inj h
  have hname := oneLine_className type.name
  have hmanifest := unbroken_of_type hmanifest
  show ∀ page ∈ typePagesOf type manifest, page.PartsFit
  unfold typePagesOf
  split
  case h_1 fields hshape =>
    have hfields := hmanifest.shape
    rw [hshape] at hfields
    have hrecord := RecordClass.unbroken_plain hname type.docs hfields
    exact List.forall_mem_singleton.mpr ((UnitItems.struct type manifest fields).fits
      (List.forall_mem_cons.mpr ⟨hrecord, hmanifest.unbroken_items⟩))
  case h_2 size variants hshape =>
    refine List.forall_mem_cons.mpr ⟨(UnitItems.enum type manifest size variants).fits
      (unbroken_items_of_enum hmanifest hshape), ?_⟩
    refine List.forall_mem_map.mpr fun variant hvariant => ?_
    exact (UnitItems.variant type manifest variant).fits
      (unbroken_item_of_variant hmanifest hshape hvariant)
  case h_3 =>
    exact List.forall_mem_singleton.mpr ((UnitItems.synonym type manifest).fits
      (List.forall_mem_cons.mpr ⟨⟨hname, hmanifest.targetType⟩, hmanifest.unbroken_items⟩))

/-- **The part directives of pages.** This is so for all pages of all accounts, instructions and
defined types that are rendered. -/
theorem partsFit :
    (∀ account rendering, resolver.accountPage account = .ok rendering →
      ∀ page ∈ rendering.pages, page.PartsFit) ∧
    (∀ instruction accounts program rendering,
      resolver.instructionPage instruction accounts program = .ok rendering →
        ∀ page ∈ rendering.pages, page.PartsFit) ∧
    ∀ type rendering, resolver.typePages type = .ok rendering →
      ∀ page ∈ rendering.pages, page.PartsFit :=
  ⟨fun _ _ => partsFit_of_accountPage, fun _ _ _ _ => partsFit_of_instructionPage,
    fun _ _ => partsFit_of_typePages⟩

/-- A further name for texts, with the given documentation. -/
def caption (docs : List String) : DefinedType where
  name := "caption"
  type := .string .utf8
  docs := docs

/-- The page of that name. -/
def captionPage (docs : List String) : Page :=
  aliasPage (caption docs) (.leaf "String" (.string .borsh))

theorem typePages_caption (resolver : Resolver) (docs : List String) :
    resolver.typePages (caption docs) = .ok ⟨[captionPage docs], []⟩ := rfl

theorem partDirectives_captionPage (docs : List String) :
    partDirectives (captionPage docs).body =
      strayDirectives [.synonym docs (className "caption") "String"] := by
  have htype : OneLine "String" := by decide
  exact (UnitItems.synonym (caption docs) (.leaf "String" (.string .borsh))).partDirectives_body
    (List.forall_mem_singleton.mpr ⟨oneLine_className _, htype⟩)

/-! ### Classes below classes -/

/-- A field whose class stands beside its user. -/
def markField : Idl.StructField :=
  .plain "mark" (.struct [.plain "height" (.number ⟨.u8, .little⟩)])

/-- The fields of the class of a mark. -/
def heightFields : List FieldManifest :=
  [⟨memberName "height", "height", "int", .number .u8, [], none⟩]

/-- The class of the mark of a user. -/
def markDeclaration (user : String) : Declaration :=
  ⟨user ++ className "mark", .struct heightFields⟩

/-- The mark as a field of its user. -/
def markManifest (user : String) : FieldManifest where
  name := memberName "mark"
  sourceName := "mark"
  targetType := (markDeclaration user).name
  codec := .struct (markDeclaration user).name (heightFields.map FieldManifest.entry)
  docs := []
  defaultValue := none

/-- An account with a mark. -/
def buoy : Account where
  name := "buoy"
  size := none
  docs := ["A buoy."]
  data := .struct [markField]
  pda := none
  discriminators := [.constant (.number (.int 3)) 0]

/-- The class of the account. -/
def buoyClass : AccountClass where
  account := buoy
  manifest :=
    { targetType := className "buoy"
      imports := .empty
      declarations := [markDeclaration (className "buoy")]
      codec := .struct (className "buoy") [(markManifest (className "buoy")).entry]
      shape := .struct [markManifest (className "buoy")]
      diagnostics := [] }
  discriminator := ⟨[3], .constant⟩

theorem accountClass_buoy (resolver : Resolver) :
    resolver.accountClass buoy = .ok buoyClass := rfl

/-- A type with an empty variant and one that has a mark. -/
def signal : DefinedType where
  name := "signal"
  type := .enum [.empty "dark", .struct "lit" [markField]] ⟨.u8, .little⟩
  docs := ["A signal."]

/-- The empty variant. -/
def darkVariant : VariantManifest := ⟨className "dark", memberName "dark", 0, .empty⟩

/-- The variant with a mark. -/
def litVariant : VariantManifest :=
  ⟨className "lit", memberName "lit", 1, .struct [markManifest (className "lit")]⟩

/-- The manifest of the type. -/
def signalManifest : Manifest where
  targetType := className "signal"
  imports := .empty
  declarations := [markDeclaration (className "lit")]
  codec := .enum (className "signal") .u8 [darkVariant.codec, litVariant.codec]
  shape := .enum .u8 [darkVariant, litVariant]
  diagnostics := []

theorem resolve_signal (resolver : Resolver) :
    resolver.resolve signal.type (.root (className signal.name) .type) = .ok signalManifest := rfl

/-- The page of the type. -/
def signalPage : Page := enumPage signal signalManifest .u8 [darkVariant, litVariant]

/-- The page of a variant of the type. -/
def signalVariantPage (variant : VariantManifest) : Page :=
  variantPage (fileStem signal.name) signalManifest variant

theorem accountPage_buoy (resolver : Resolver) :
    resolver.accountPage buoy = .ok ⟨[buoyClass.page], []⟩ := rfl

theorem typePages_signal (resolver : Resolver) : resolver.typePages signal =
    .ok ⟨[signalPage, signalVariantPage darkVariant, signalVariantPage litVariant], []⟩ := rfl

/-- A page without classes has no part directive if its documentation has no line ends. An account
and an enum with classes beside them have one each, and so has the page of a variant with fields,
but not that of a variant without. -/
theorem partsFit_caption :
    (captionPage ["A text."]).PartsFit ∧ partDirectives (captionPage ["A text."]).body = [] ∧
    buoyClass.page.PartsFit ∧
      partDirectives buoyClass.page.body = ["part 'buoy.g.dart';".toList] ∧
    signalPage.PartsFit ∧ partDirectives signalPage.body = ["part 'signal.g.dart';".toList] ∧
    (signalVariantPage darkVariant).PartsFit ∧
      partDirectives (signalVariantPage darkVariant).body = [] ∧
    (signalVariantPage litVariant).PartsFit ∧
      partDirectives (signalVariantPage litVariant).body = ["part 'lit.g.dart';".toList] := by
  obtain ⟨haccounts, -, htypes⟩ := @partsFit ⟨.empty, "main"⟩
  have hcaption := htypes _ _ (typePages_caption _ ["A text."]) _ List.mem_cons_self
  have hbuoy := haccounts _ _ (accountPage_buoy _) _ List.mem_cons_self
  have hpages := List.forall_mem_cons.mp (htypes _ _ (typePages_signal _))
  obtain ⟨hsignal, hvariants⟩ := hpages
  obtain ⟨hdark, hlit⟩ := List.forall_mem_cons.mp hvariants
  have hmanifest : signalManifest.Unbroken := unbroken_of_type (resolve_signal ⟨.empty, "main"⟩)
  -- The directives are those of the items, so that no body has to be read.
  refine ⟨hcaption, ?_, hbuoy, ?_, hsignal, ?_, hdark, ?_, hlit _ List.mem_cons_self, ?_⟩
  · rw [partDirectives_captionPage]
    decide
  · rw [(UnitItems.account buoyClass).partDirectives_body
      (unbroken_items_of_accountClass (accountClass_buoy ⟨.empty, "main"⟩))]
    decide
  · rw [signalPage, (UnitItems.enum signal signalManifest .u8 _).partDirectives_body
      (unbroken_items_of_enum hmanifest rfl)]
    decide
  · rw [signalVariantPage, (UnitItems.variant signal signalManifest _).partDirectives_body
      (unbroken_item_of_variant hmanifest rfl List.mem_cons_self)]
    decide
  · rw [signalVariantPage, (UnitItems.variant signal signalManifest _).partDirectives_body
      (unbroken_item_of_variant hmanifest rfl (List.mem_cons_of_mem _ List.mem_cons_self))]
    decide

/-- **A page without classes has a part directive** if its documentation has one behind a line
feed. -/
theorem partDirectives_captionPage_feed :
    Resolver.typePages ⟨.empty, "main"⟩ (caption ["A text.\npart 'other.g.dart';"]) =
        .ok ⟨[captionPage ["A text.\npart 'other.g.dart';"]], []⟩ ∧
      partDirectives (captionPage ["A text.\npart 'other.g.dart';"]).body =
        ["part 'other.g.dart';".toList] := by
  refine ⟨typePages_caption _ _, ?_⟩
  rw [partDirectives_captionPage]
  decide

end Resolver

end DartClient
