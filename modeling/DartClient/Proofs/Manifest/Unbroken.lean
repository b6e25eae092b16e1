import DartClient.Proofs.Manifest.Declarations
import DartClient.Proofs.Manifest.Nullable
import DartClient.Proofs.Text.LineEnds

/-!
# Manifests on one line

What the resolver makes up has no line ends, whatever the description is: the names of classes and
fields are made of letters and digits, and types and annotations of such names, of numbers and of
fixed texts. Only the documentation of fields is handed on as it is.

The names of classes are put together on the way down, so the induction over the levels of the
resolver needs this of the name in the context as well. A class in place hands its fields up in its
shape or in a declaration, and so do the classes inside it.

## Main definitions

* `Codec.Unbroken`: the annotation of a layout is on one line.
* `Manifest.Unbroken`: the names, types and annotations of a manifest are on one line each.

## Main results

* `Resolver.unbroken_of_resolveLevel`: one level of the resolver adds no line ends.
* `Resolver.unbroken_of_resolve`: what a type is resolved to has none.
-/

namespace DartClient

open Idl (TypeNode StructField EnumVariant NumberType NumberFormat Count)
open Text (OneLine OneLines oneLine_ofList oneLine_toString)

/-! ## Names -/

theorem oneLine_className (name : String) : OneLine (className name) :=
  Text.oneLine_upperCamel name

theorem oneLine_memberName (name : String) : OneLine (memberName name) := by
  have hunderscore : OneLine "_" := by decide
  unfold memberName avoidReserved
  split
  · exact (Text.oneLine_lowerCamel name).append hunderscore
  · exact Text.oneLine_lowerCamel name

theorem oneLine_layoutSymbol {name : String} (h : OneLine name) : OneLine (layoutSymbol name) := by
  have hletter : OneLine "B" := by decide
  exact hletter.append h

/-! ## Annotations -/

namespace Word

/-- All words are on one line. -/
def Unbroken (words : List Word) : Prop := ∀ word ∈ words, OneLine word.text

variable {words other : List Word} {rows : List (List Word)} {text : String}

theorem unbroken_nil : Unbroken [] := List.forall_mem_nil _

theorem unbroken_cons {word : Word} (h : OneLine word.text) (hwords : Unbroken words) :
    Unbroken (word :: words) := List.forall_mem_cons.mpr ⟨h, hwords⟩

theorem unbroken_fixed (h : OneLine text) : Unbroken [.fixed text] := unbroken_cons h unbroken_nil

theorem Unbroken.append (h : Unbroken words) (hother : Unbroken other) :
    Unbroken (words ++ other) := List.forall_mem_append.mpr ⟨h, hother⟩

theorem unbroken_listed (h : ∀ row ∈ rows, Unbroken row) : Unbroken (listed rows) := by
  intro word hword
  rcases Text.mem_of_mem_intercalate hword with hword | ⟨row, hrow, hword⟩
  · obtain rfl := List.mem_singleton.mp hword
    exact oneLine_ofList (by decide)
  · exact h row hrow word hword

theorem unbroken_enclosed {opening : String} (hopening : OneLine opening)
    (h : ∀ row ∈ rows, Unbroken row) : Unbroken (enclosed opening rows) := by
  have hclosing : OneLine ")" := by decide
  exact unbroken_cons hopening ((unbroken_listed h).append (unbroken_fixed hclosing))

theorem Unbroken.oneLine_join (h : Unbroken words) : OneLine (join words) := by
  induction words with
  | nil => exact oneLine_ofList (by decide)
  | cons word words ih =>
    obtain ⟨hword, hwords⟩ := List.forall_mem_cons.mp h
    rw [join_cons]
    exact hword.append (ih hwords)

end Word

section Words

open Word

variable {rows : List (List Word)} {row : List Word} {name : String}

theorem oneLine_numberBorshType (format : NumberFormat) : OneLine (numberBorshType format) := by
  cases format <;> exact oneLine_ofList (by decide)

/-- A call with a text in front of its other arguments. -/
theorem unbroken_enclosed_cons {opening text : String} (hopening : OneLine opening)
    (htext : OneLine text) (h : ∀ row ∈ rows, Unbroken row) :
    Unbroken (enclosed opening ([.fixed text] :: rows)) :=
  unbroken_enclosed hopening (List.forall_mem_cons.mpr ⟨unbroken_fixed htext, h⟩)

theorem unbroken_lengthWords {base : String} (hbase : OneLine base) (length : Length)
    (h : ∀ row ∈ rows, Unbroken row) : Unbroken (lengthWords base length rows) := by
  have hparenthesis : OneLine "(" := by decide
  have hopening {style : String} (hstyle : OneLine style) : OneLine (style ++ base ++ "(") :=
    (hstyle.append hbase).append hparenthesis
  unfold lengthWords
  split
  · exact unbroken_enclosed (hopening (oneLine_ofList (by decide))) h
  · exact unbroken_enclosed_cons (hopening (oneLine_ofList (by decide)))
      (oneLine_numberBorshType _) h
  · exact unbroken_enclosed_cons (hopening (oneLine_ofList (by decide))) (oneLine_toString _) h
  · exact unbroken_enclosed (hopening (oneLine_ofList (by decide))) h

theorem unbroken_optionWords (flag : NumberFormat) (isFixed : Bool) (h : Unbroken row) :
    Unbroken (optionWords flag isFixed row) := by
  have hrow : ∀ other ∈ [row], Unbroken other := List.forall_mem_singleton.mpr h
  unfold optionWords
  split
  · exact unbroken_enclosed_cons (oneLine_ofList (by decide)) (oneLine_numberBorshType flag) hrow
  · split
    · exact unbroken_enclosed (oneLine_ofList (by decide)) hrow
    · exact unbroken_enclosed_cons (oneLine_ofList (by decide)) (oneLine_numberBorshType flag) hrow

theorem unbroken_structWords (h : OneLine name) : Unbroken (structWords name) := by
  have hopening : OneLine "BCustom(" := by decide
  have hclosing : OneLine "())" := by decide
  exact unbroken_cons hopening (unbroken_cons (oneLine_layoutSymbol h) (unbroken_fixed hclosing))

theorem unbroken_enumWords (h : OneLine name) {variants : List String}
    (hvariants : OneLines variants) : Unbroken (enumWords name variants) := by
  have hopening : OneLine "BEnum<" := by decide
  have hmiddle : OneLine ">(\x7b" := by decide
  have hclosing : OneLine "\x7d)" := by decide
  have hcolon : OneLine ": " := by decide
  have hcall : OneLine "()" := by decide
  refine unbroken_cons hopening (unbroken_cons h (unbroken_cons hmiddle
    ((unbroken_listed (List.forall_mem_map.mpr ?_)).append (unbroken_fixed hclosing))))
  intro variant hvariant
  have hlabel := hvariants variant hvariant
  exact unbroken_cons hlabel (unbroken_cons hcolon
    (unbroken_cons (oneLine_layoutSymbol hlabel) (unbroken_fixed hcall)))

end Words

/-- The annotation of a layout is put together from words on one line. -/
def Codec.Unbroken (codec : Codec) : Prop := Word.Unbroken codec.words

namespace Codec

open Word

variable {codec inner key value : Codec} {name : String}

theorem Unbroken.oneLine_of_annotation? (h : codec.Unbroken) {text : String}
    (htext : codec.annotation? = some text) : OneLine text := by
  obtain ⟨expression, hexpression, rfl⟩ := Option.map_eq_some_iff.mp htext
  have hmark : OneLine "@" := by decide
  rw [borshType?_eq_some hexpression]
  exact hmark.append (Word.Unbroken.oneLine_join h)

theorem unbroken_number (format : NumberFormat) : (Codec.number format).Unbroken :=
  unbroken_fixed (oneLine_numberBorshType format)

theorem unbroken_boolean (format : NumberFormat) : (Codec.boolean format).Unbroken := by
  have hopening : OneLine "BPrefixedBool(" := by decide
  have hclosing : OneLine ")" := by decide
  have hprefixed := (hopening.append (oneLine_numberBorshType format)).append hclosing
  cases format
  case u8 => exact unbroken_fixed (oneLine_ofList (by decide))
  all_goals exact unbroken_fixed hprefixed

theorem unbroken_string (length : Length) : (Codec.string length).Unbroken :=
  unbroken_lengthWords (oneLine_ofList (by decide)) length (List.forall_mem_nil _)

theorem unbroken_bytes (length : Length) : (Codec.bytes length).Unbroken :=
  unbroken_lengthWords (oneLine_ofList (by decide)) length (List.forall_mem_nil _)

theorem unbroken_publicKey : Codec.publicKey.Unbroken :=
  unbroken_fixed (oneLine_ofList (by decide))

/-- A layout around another one. -/
theorem Unbroken.of_element? (h : inner.Unbroken) (helement : codec.element? = some inner) :
    codec.Unbroken := by
  have hrow : ∀ row ∈ [inner.words], Word.Unbroken row := List.forall_mem_singleton.mpr h
  cases codec <;> cases helement
  case option flag isFixed => exact unbroken_optionWords flag isFixed h
  case list count => exact unbroken_lengthWords (oneLine_ofList (by decide)) count hrow
  case set count => exact unbroken_lengthWords (oneLine_ofList (by decide)) count hrow
  case typedArray count =>
    exact unbroken_enclosed_cons (oneLine_ofList (by decide)) (oneLine_toString count) hrow
  case sizePrefixed width =>
    exact unbroken_enclosed_cons (oneLine_ofList (by decide)) (oneLine_numberBorshType width) hrow
  case fixedSize size =>
    exact unbroken_enclosed_cons (oneLine_ofList (by decide)) (oneLine_toString size) hrow

theorem Unbroken.map (hkey : key.Unbroken) (hvalue : value.Unbroken) (count : Length) :
    (Codec.map key value count).Unbroken :=
  unbroken_lengthWords (oneLine_ofList (by decide)) count
    (List.forall_mem_cons.mpr ⟨hkey, List.forall_mem_singleton.mpr hvalue⟩)

theorem unbroken_tuple {items : List Codec} (h : ∀ item ∈ items, item.Unbroken) :
    (Codec.tuple items).Unbroken := by
  have hopening : OneLine "BTuple([" := by decide
  have hclosing : OneLine "])" := by decide
  have hrows : ∀ row ∈ itemWords items, Word.Unbroken row := by
    rw [itemWords_eq_map]
    exact List.forall_mem_map.mpr h
  exact unbroken_cons hopening ((unbroken_listed hrows).append (unbroken_fixed hclosing))

end Codec

/-! ## Manifests -/

/-- The names, the type and the annotation of a field are on one line each. -/
structure FieldManifest.Unbroken (field : FieldManifest) : Prop where
  name : OneLine field.name
  targetType : OneLine field.targetType
  codec : field.codec.Unbroken

/-- The same for a variant and its fields. -/
structure VariantManifest.Unbroken (variant : VariantManifest) : Prop where
  name : OneLine variant.name
  factory : OneLine variant.factory
  fields : ∀ field ∈ variant.payload.fields, field.Unbroken

/-- The same for all parts of a class. -/
def Shape.Unbroken : Shape → Prop
  | .plain => True
  | .struct fields => ∀ field ∈ fields, field.Unbroken
  | .enum _ variants => ∀ variant ∈ variants, variant.Unbroken

/-- The same for a class beside a type. -/
structure Declaration.Unbroken (declaration : Declaration) : Prop where
  name : OneLine declaration.name
  shape : declaration.shape.Unbroken

/-- The type and the annotation are on one line each, and so are the names, types and annotations
of all classes. -/
structure Manifest.Unbroken (manifest : Manifest) : Prop where
  targetType : OneLine manifest.targetType
  codec : manifest.codec.Unbroken
  shape : manifest.shape.Unbroken
  declarations : ∀ declaration ∈ manifest.declarations, declaration.Unbroken

namespace Manifest

variable {manifest inner : Manifest} {targetType : String} {codec : Codec}

theorem unbroken_leaf (htype : OneLine targetType) (hcodec : codec.Unbroken) :
    (leaf targetType codec).Unbroken :=
  ⟨htype, hcodec, trivial, List.forall_mem_nil _⟩

theorem Unbroken.withImport (h : manifest.Unbroken) (module : String) (symbols : List String) :
    (manifest.withImport module symbols).Unbroken :=
  ⟨h.targetType, h.codec, h.shape, h.declarations⟩

theorem Unbroken.wrap (h : manifest.Unbroken) (htype : OneLine targetType)
    (hcodec : codec.Unbroken) : (manifest.wrap targetType codec).Unbroken :=
  ⟨htype, hcodec, trivial, h.declarations⟩

/-- A list, set, option around an item. -/
theorem Unbroken.around (h : inner.Unbroken) (htype : OneLine targetType)
    (hcodec : codec.element? = some inner.codec) : (inner.wrap targetType codec).Unbroken :=
  h.wrap htype (h.codec.of_element? hcodec)

/-- A size around a type. -/
theorem Unbroken.sized (h : inner.Unbroken) (hcodec : codec.element? = some inner.codec) :
    (wrapKeepingShape inner codec).Unbroken :=
  ⟨h.targetType, h.codec.of_element? hcodec, h.shape, h.declarations⟩

/-- The fields that a type shows, or else some other ones. -/
theorem Unbroken.fields (h : manifest.Unbroken) {others : List FieldManifest}
    (hothers : ∀ field ∈ others, field.Unbroken) :
    ∀ field ∈ manifest.fields?.getD others, field.Unbroken := by
  unfold fields?
  split
  case h_1 fields hshape =>
    have hfields := h.shape
    rwa [hshape] at hfields
  case h_2 => exact hothers

theorem unbroken_of_foldl_absorb {children : List Manifest}
    (h : ∀ declaration ∈ manifest.declarations, declaration.Unbroken)
    (hchildren : ∀ child ∈ children, child.Unbroken) :
    ∀ declaration ∈ (children.foldl absorb manifest).declarations, declaration.Unbroken := by
  intro declaration hdeclaration
  rcases mem_declarations_foldl_absorb children hdeclaration with hown | ⟨child, hchild, hmem⟩
  · exact h declaration hown
  · exact (hchildren child hchild).declarations declaration hmem

end Manifest

/-- A class with its name on one line, whose parts and children have no line ends. -/
theorem unbroken_classManifest {ctx : ResolveContext} {name : String} {codec : Codec}
    {shape : Shape} {children : List Manifest} (hname : OneLine name) (hcodec : codec.Unbroken)
    (hshape : shape.Unbroken) (hchildren : ∀ child ∈ children, child.Unbroken) :
    (classManifest ctx name codec shape children).Unbroken := by
  refine ⟨?_, ?_, ?_, fun declaration hdeclaration => ?_⟩
  · rw [Resolver.targetType_classManifest]
    exact hname
  · rw [codec_classManifest]
    exact hcodec
  · cases hdeclares : ctx.declares with
    | true =>
      rw [Resolver.shape_classManifest hdeclares]
      trivial
    | false => simpa [classManifest, hdeclares] using hshape
  · rcases mem_declarations_classManifest hdeclaration with ⟨-, rfl⟩ | ⟨child, hchild, hmem⟩
    · exact ⟨hname, hshape⟩
    · exact (hchildren child hchild).declarations declaration hmem

/-! ## Contexts -/

/-- The name of a class made of the type is on one line. -/
def ResolveContext.Unbroken (ctx : ResolveContext) : Prop :=
  ∀ name, ctx.parentName = some name → OneLine name

namespace ResolveContext

variable {ctx : ResolveContext} {name : String}

theorem unbroken_root (h : OneLine name) (naming : FieldNaming) : (root name naming).Unbroken := by
  intro parent hparent
  rwa [← Option.some.inj hparent]

theorem Unbroken.item (h : ctx.Unbroken) : ctx.item.Unbroken := h

theorem Unbroken.typeName (h : ctx.Unbroken) {fallback : String} (hfallback : OneLine fallback) :
    OneLine (ctx.typeName fallback) := by
  unfold ResolveContext.typeName
  cases hname : ctx.parentName with
  | none => exact hfallback
  | some parent => exact h parent hname

theorem Unbroken.field (h : ctx.Unbroken) (hname : OneLine name) : (ctx.field name).Unbroken := by
  have hfallback : OneLine "" := by decide
  intro parent hparent
  rw [← Option.some.inj hparent]
  exact (h.typeName hfallback).append hname

theorem unbroken_variant (h : OneLine name) : (ctx.variant name).Unbroken := by
  intro parent hparent
  rwa [← Option.some.inj hparent]

end ResolveContext

/-! ## One level -/

namespace Resolver

variable {resolver : Resolver} {child : ResolveChild} {ctx : ResolveContext} {manifest : Manifest}

/-- The level below adds no line ends. -/
def ChildUnbroken (child : ResolveChild) : Prop :=
  ∀ {node ctx manifest}, ctx.Unbroken → child node ctx = .ok manifest → manifest.Unbroken

/-- A field and what it needs have no line ends. -/
abbrev FieldUnbroken (resolved : FieldManifest × Manifest) : Prop :=
  resolved.1.Unbroken ∧ resolved.2.Unbroken

theorem unbroken_of_fieldManifest (hchild : ChildUnbroken child) (hctx : ctx.Unbroken)
    {field : StructField} {resolved : FieldManifest × Manifest}
    (h : fieldManifest child ctx field = .ok resolved) : FieldUnbroken resolved := by
  obtain ⟨manifest, hmanifest, h⟩ := Resolved.bind_eq_ok_iff.mp h
  obtain rfl := Except.ok.inj h
  have hmanifest : manifest.Unbroken := hchild (hctx.field (oneLine_className _)) hmanifest
  have hname : OneLine (ctx.naming.spell field.name) := by
    cases ctx.naming <;> exact oneLine_memberName field.name
  exact ⟨⟨hname, hmanifest.targetType, hmanifest.codec⟩, hmanifest⟩

theorem unbroken_of_struct (hchild : ChildUnbroken child) (hctx : ctx.Unbroken)
    {fields : List StructField} (h : structManifest child ctx fields = .ok manifest) :
    manifest.Unbroken := by
  obtain ⟨resolved, hresolved, h⟩ := Resolved.bind_eq_ok_iff.mp h
  obtain rfl := Except.ok.inj h
  have hfields : ∀ field ∈ resolved, FieldUnbroken field := by
    intro field hfield
    obtain ⟨_, -, h⟩ :=
      exists_of_forall₂_of_mem_right (Resolved.mapM_eq_ok_iff.mp hresolved) hfield
    exact unbroken_of_fieldManifest hchild hctx h
  have hname : OneLine (ctx.typeName "AnonymousStruct") := hctx.typeName (by decide)
  refine unbroken_classManifest hname (unbroken_structWords hname) ?_ ?_
  · exact List.forall_mem_map.mpr fun field hfield => (hfields field hfield).1
  · exact List.forall_mem_map.mpr fun field hfield => (hfields field hfield).2

theorem unbroken_of_payloadItems (hchild : ChildUnbroken child) (hctx : ctx.Unbroken)
    {items : List TypeNode} : ∀ {position : Nat} {resolved : List (FieldManifest × Manifest)},
    payloadItems child ctx position items = .ok resolved →
      ∀ field ∈ resolved, FieldUnbroken field := by
  induction items with
  | nil =>
    intro position resolved h
    obtain rfl := Except.ok.inj h
    exact List.forall_mem_nil _
  | cons item items ih =>
    intro position resolved h
    obtain ⟨head, hhead, h⟩ := Resolved.bind_eq_ok_iff.mp h
    obtain ⟨tail, htail, h⟩ := Resolved.bind_eq_ok_iff.mp h
    obtain rfl := Except.ok.inj h
    obtain ⟨manifest, hmanifest, hhead⟩ := Resolved.bind_eq_ok_iff.mp hhead
    obtain rfl := Except.ok.inj hhead
    have hclass : OneLine "Field" := by decide
    have hfield : OneLine "field" := by decide
    have hmanifest : manifest.Unbroken :=
      hchild (hctx.field (hclass.append (oneLine_toString position))) hmanifest
    refine List.forall_mem_cons.mpr ⟨⟨⟨?_, hmanifest.targetType, hmanifest.codec⟩, hmanifest⟩,
      ih htail⟩
    exact hfield.append (oneLine_toString position)

theorem unbroken_of_variantPayload (hchild : ChildUnbroken child) (hctx : ctx.Unbroken)
    {variant : EnumVariant} {payload : VariantPayload} {needs : List Manifest}
    (h : variantPayload child ctx variant = .ok (payload, needs)) :
    (∀ field ∈ payload.fields, field.Unbroken) ∧ ∀ manifest ∈ needs, manifest.Unbroken := by
  cases variant with
  | empty name =>
    obtain ⟨rfl, rfl⟩ := Prod.mk.inj (Except.ok.inj h)
    exact ⟨List.forall_mem_nil _,
      List.forall_mem_nil _⟩
  | tuple name items =>
    obtain ⟨resolved, hresolved, h⟩ := Resolved.bind_eq_ok_iff.mp h
    obtain ⟨rfl, rfl⟩ := Prod.mk.inj (Except.ok.inj h)
    have hfields := unbroken_of_payloadItems hchild hctx hresolved
    exact ⟨List.forall_mem_map.mpr fun field hfield => (hfields field hfield).1,
      List.forall_mem_map.mpr fun field hfield => (hfields field hfield).2⟩
  | struct name fields =>
    obtain ⟨manifest, hmanifest, h⟩ := Resolved.bind_eq_ok_iff.mp h
    obtain ⟨rfl, rfl⟩ := Prod.mk.inj (Except.ok.inj h)
    have hmanifest := unbroken_of_struct hchild hctx hmanifest
    exact ⟨hmanifest.fields (List.forall_mem_nil _), List.forall_mem_singleton.mpr hmanifest⟩

theorem unbroken_of_variantManifests (hchild : ChildUnbroken child) {variants : List EnumVariant} :
    ∀ {index : Nat} {resolved : List (VariantManifest × List Manifest)},
    variantManifests child ctx index variants = .ok resolved →
      ∀ variant ∈ resolved, variant.1.Unbroken ∧ ∀ manifest ∈ variant.2, manifest.Unbroken := by
  induction variants with
  | nil =>
    intro index resolved h
    obtain rfl := Except.ok.inj h
    exact List.forall_mem_nil _
  | cons variant variants ih =>
    intro index resolved h
    obtain ⟨⟨payload, needs⟩, hpayload, h⟩ := Resolved.bind_eq_ok_iff.mp h
    obtain ⟨tail, htail, h⟩ := Resolved.bind_eq_ok_iff.mp h
    obtain rfl := Except.ok.inj h
    have hname := oneLine_className variant.name
    obtain ⟨hfields, hneeds⟩ :=
      unbroken_of_variantPayload hchild (ResolveContext.unbroken_variant hname) hpayload
    exact List.forall_mem_cons.mpr
      ⟨⟨⟨hname, oneLine_memberName variant.name, hfields⟩, hneeds⟩, ih htail⟩

theorem unbroken_of_enum (hchild : ChildUnbroken child) (hctx : ctx.Unbroken)
    {variants : List EnumVariant} {size : NumberType}
    (h : enumManifest child ctx variants size = .ok manifest) : manifest.Unbroken := by
  obtain ⟨format, -, h⟩ := Resolved.bind_eq_ok_iff.mp h
  obtain ⟨resolved, hresolved, h⟩ := Resolved.bind_eq_ok_iff.mp h
  obtain rfl := Except.ok.inj h
  have hvariants := unbroken_of_variantManifests hchild hresolved
  have hname : OneLine (ctx.typeName "AnonymousEnum") := hctx.typeName (by decide)
  refine unbroken_classManifest hname (unbroken_enumWords hname ?_) ?_ ?_
  · rw [List.map_map]
    exact Text.oneLines_map (List.forall_mem_map.mpr fun variant h => (hvariants variant h).1.name)
  · exact List.forall_mem_map.mpr fun variant hvariant => (hvariants variant hvariant).1
  · exact List.forall_mem_flatMap.mpr fun variant hvariant => (hvariants variant hvariant).2

theorem oneLine_numberType (format : NumberFormat) : OneLine (numberType format) := by
  cases format <;> exact oneLine_ofList (by decide)

theorem oneLine_typedList {format : NumberFormat} {list : String}
    (h : typedList? format = some list) : OneLine list := by
  cases format <;> cases h <;> exact oneLine_ofList (by decide)

/-- The question mark of an option goes somewhere into the text. -/
theorem oneLine_nullableType {targetType : String} (h : OneLine targetType) :
    OneLine (nullableType targetType) := by
  intro c hc
  rw [toList_nullableType, nullableText] at hc
  split at hc
  case h_1 head tail hsplit =>
    have htext := (eq_of_splitLengthMark hsplit).2
    rcases List.mem_append.mp hc with hc | hc
    · exact h c (htext ▸ List.mem_append_left _ hc)
    · rcases List.mem_cons.mp hc with rfl | hc
      · rfl
      · exact h c (htext ▸ List.mem_append_right _ hc)
  case h_2 =>
    rcases List.mem_append.mp hc with hc | hc
    · exact h c hc
    · rw [List.mem_singleton.mp hc]
      rfl

theorem oneLine_tupleType {types : List String} (h : OneLines types) :
    OneLine (tupleType types) := by
  have hopening : OneLine "(" := by decide
  have hclosing : OneLine ")" := by decide
  have hsingle : OneLine ",)" := by decide
  have hcomma : OneLine ", " := by decide
  unfold tupleType
  split
  · exact (hopening.append (List.forall_mem_singleton.mp h)).append hsingle
  · exact (hopening.append (Text.oneLine_intercalate hcomma h)).append hclosing

theorem unbroken_of_tuple {children : List Manifest} (h : ∀ child ∈ children, child.Unbroken) :
    ((children.foldl Manifest.absorb (.leaf "" (.tuple []))).wrap
      (tupleType (children.map (·.targetType))) (.tuple (children.map (·.codec)))).Unbroken := by
  refine ⟨oneLine_tupleType (Text.oneLines_map fun child hchild => (h child hchild).targetType),
    Codec.unbroken_tuple (List.forall_mem_map.mpr fun child hchild => (h child hchild).codec),
    trivial, ?_⟩
  exact Manifest.unbroken_of_foldl_absorb (List.forall_mem_nil _) h

/-- The variants that a link shows are classes. -/
theorem oneLines_of_shape {type : TypeNode} {variants : List String}
    (h : DefinedShape.ofType type = .enum variants) : OneLines variants := by
  cases type
  case enum declared size =>
    obtain rfl := DefinedShape.enum.inj h
    exact Text.oneLines_map fun variant _ => oneLine_className variant.name
  all_goals cases h

theorem unbroken_of_link (hchild : ChildUnbroken child) {name : String} {program : Option String}
    (h : resolver.linkManifest child ctx name program = .ok manifest) : manifest.Unbroken := by
  have hname := oneLine_className name
  unfold linkManifest at h
  split at h
  case h_1 => cases h
  case h_2 defined hdefined =>
    simp only at h
    split at h
    case h_1 =>
      obtain rfl := Except.ok.inj h
      have hcodec : (Codec.defined (className name) .struct).Unbroken := unbroken_structWords hname
      exact (Manifest.unbroken_leaf hname hcodec).withImport _ _
    case h_2 variants hshape =>
      obtain rfl := Except.ok.inj h
      have hcodec : (Codec.defined (className name) (.enum variants)).Unbroken :=
        unbroken_enumWords hname (oneLines_of_shape hshape)
      exact (Manifest.unbroken_leaf hname hcodec).withImport _ _
    case h_3 =>
      -- What stands beside the type of the alias stays in its own file.
      obtain ⟨inner, hinner, h⟩ := Resolved.bind_eq_ok_iff.mp h
      obtain rfl := Except.ok.inj h
      have hctx : (aliasContext name (ctx.depth + 1)).Unbroken :=
        ResolveContext.unbroken_root hname .type
      have hinner : inner.Unbroken := hchild hctx hinner
      exact ⟨hname, hinner.codec, trivial, List.forall_mem_nil _⟩

/-- **One level of the resolver adds no line ends** if the levels below add none. -/
theorem unbroken_of_resolveLevel (hchild : ChildUnbroken child) (hctx : ctx.Unbroken)
    {node : TypeNode} (h : resolver.resolveLevel child node ctx = .ok manifest) :
    manifest.Unbroken := by
  -- All spellings are put together of these texts and of the spellings one level below.
  have hbool : OneLine "bool" := by decide
  have hstring : OneLine "String" := by decide
  have hbytes : OneLine "Uint8List" := by decide
  have haddress : OneLine "Ed25519HDPublicKey" := by decide
  have hobject : OneLine "Object" := by decide
  have hlabel : OneLine " /* length: " := by decide
  have hend : OneLine " */" := by decide
  have hlist : OneLine "List<" := by decide
  have hset : OneLine "Set<" := by decide
  have hmap : OneLine "Map<" := by decide
  have hcomma : OneLine ", " := by decide
  have hclosing : OneLine ">" := by decide
  cases makes_of_resolveLevel h with
  | number format | amount format | solAmount format | dateTime format =>
    exact Manifest.unbroken_leaf (oneLine_numberType format) (Codec.unbroken_number format)
  | boolean format => exact Manifest.unbroken_leaf hbool (Codec.unbroken_boolean format)
  | string | fixedText | prefixedText =>
    exact Manifest.unbroken_leaf hstring (Codec.unbroken_string _)
  | bytes | fixedBytes | prefixedBytes =>
    exact (Manifest.unbroken_leaf hbytes (Codec.unbroken_bytes _)).withImport _ _
  | publicKey => exact (Manifest.unbroken_leaf haddress Codec.unbroken_publicKey).withImport _ _
  | @typedList _ list format htyped size =>
    have hlist : OneLine list := oneLine_typedList (typedList?_of_typedItem? htyped)
    have hcodec : (Codec.typedArray (.number format) size).Unbroken :=
      (Codec.unbroken_number format).of_element? rfl
    have htype := ((hlist.append hlabel).append (oneLine_toString size)).append hend
    exact (Manifest.unbroken_leaf htype hcodec).withImport _ _
  | array _ _ hinner =>
    have hinner := hchild hctx.item hinner
    exact hinner.around ((hlist.append hinner.targetType).append hclosing) rfl
  | option flag isFixed hinner =>
    have hinner := hchild hctx.item hinner
    exact hinner.around (oneLine_nullableType hinner.targetType) rfl
  | set _ hinner =>
    have hinner := hchild hctx.item hinner
    exact hinner.around ((hset.append hinner.targetType).append hclosing) rfl
  | @map _ _ _ length keyManifest valueManifest _ hkey hvalue =>
    have hkey := hchild hctx.item hkey
    have hvalue := hchild hctx.item hvalue
    have htype := (((hmap.append hkey.targetType).append hcomma).append hvalue.targetType).append
      hclosing
    have hdeclarations := Manifest.unbroken_of_foldl_absorb hkey.declarations
      (List.forall_mem_singleton.mpr hvalue)
    exact ⟨htype, hkey.codec.map hvalue.codec length, trivial, hdeclarations⟩
  | tuple hchildren =>
    refine unbroken_of_tuple fun inner hinner => ?_
    obtain ⟨_, -, hinner⟩ := exists_of_forall₂_of_mem_right hchildren hinner
    exact hchild hctx.item hinner
  | fixedSize _ _ _ hinner | sizePrefix _ _ _ hinner => exact (hchild hctx.item hinner).sized rfl
  | link h => exact unbroken_of_link hchild h
  | struct h => exact unbroken_of_struct hchild hctx h
  | enum h => exact unbroken_of_enum hchild hctx h
  | unknown => exact ⟨hobject, Word.unbroken_nil, trivial, List.forall_mem_nil _⟩

theorem childUnbroken_resolveWithin (resolver : Resolver) (levels : Nat) :
    ChildUnbroken (resolver.resolveWithin levels) := by
  -- The induction is on the number of levels that are left.
  induction levels with
  | zero =>
    intro node ctx manifest _ h
    cases h
  | succ levels ih =>
    intro node ctx manifest hctx h
    exact unbroken_of_resolveLevel ih hctx h

/-- **What a type is resolved to has no line ends** apart from the documentation. -/
theorem unbroken_of_resolve {node : TypeNode} (hctx : ctx.Unbroken)
    (h : resolver.resolve node ctx = .ok manifest) : manifest.Unbroken :=
  resolver.childUnbroken_resolveWithin (levelsBelow ctx.depth) hctx h

theorem unbroken_of_resolveArguments {arguments : List Idl.Argument} (hctx : ctx.Unbroken)
    (h : resolver.resolveArguments arguments ctx = .ok manifest) : manifest.Unbroken := by
  have hchild : ChildUnbroken resolver.resolve := unbroken_of_resolve
  exact unbroken_of_struct hchild hctx h

end Resolver

end DartClient
