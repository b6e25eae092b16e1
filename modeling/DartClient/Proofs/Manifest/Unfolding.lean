import DartClient.Proofs.Manifest.Layout
import DartClient.Proofs.Wire.Equivalence

/-!
# Links to aliases on the wire

A link to an alias and the type that the alias stands for have the same wire format, and so have
two types that differ in such a link at one place. There is one exception: a size around a text or
in front of it is the length of the text, but a size around a link to a text is not, since the text
behind the link keeps its own length.

## Main definitions

* `Resolver.HasWire`: all layouts of a type have one wire format.
* `TypeGap`: types with a gap at one place.
* `TypeGap.isSized`: the gaps that stand directly below a size.

## Main results

* `Resolver.hasWire_of_lays`: all layouts of a type have the same wire format.
* `Resolver.hasWire_fill`: replacing a link to an alias keeps the wire format.
* `Resolver.unfold_alias`: when the codecs of the two types agree, and when they do not.
-/

namespace DartClient

open Idl (TypeNode StructField EnumVariant NumberType NumberFormat Count BytesEncoding DefinedType)
open Codec (SameWire)

/-! ## The layouts of one type -/

/-- References to classes have no wire format at all. -/
theorem Codec.SameWire.defined (name name' : String) (kind kind' : DefinedKind) :
    (Codec.defined name kind).SameWire (.defined name' kind') where
  writes _ _ := iff_of_false not_writes_defined not_writes_defined
  reads := Step.sameReads_fail _ _
  size := rfl

/-- Neither have types of unknown kinds. -/
theorem Codec.SameWire.unknown (kind kind' : String) :
    (Codec.unknown kind).SameWire (.unknown kind') where
  writes _ _ := iff_of_false not_writes_unknown not_writes_unknown
  reads := Step.sameReads_fail _ _
  size := rfl

namespace Resolver

variable {resolver : Resolver}

/-- Every layout of the type has the wire format of the codec. -/
def HasWire (resolver : Resolver) (node : TypeNode) (codec : Codec) : Prop :=
  ∀ ⦃codec'⦄, resolver.Lays node codec' → codec.SameWire codec'

namespace HasWire

variable {item inner : TypeNode} {codec : Codec} {count : Count} {length : Length}

theorem array (hcount : lengthOf? count = some length) (h : resolver.HasWire item codec) :
    resolver.HasWire (.array item count) (.list codec length) := by
  intro codec' h'
  cases h' with
  | array hcount' hitem =>
    obtain rfl := Option.some.inj (hcount.symm.trans hcount')
    exact (h hitem).list length
  -- A typed list is a list whose items are plain numbers.
  | typedArray format size =>
    obtain rfl := Option.some.inj hcount
    exact ((h (.number format)).list _).trans (SameWire.typedArray_list _ size).symm

theorem option (flag : NumberFormat) (isFixed : Bool) (h : resolver.HasWire item codec) :
    resolver.HasWire (.option item ⟨flag, .little⟩ isFixed) (.option codec flag isFixed) := by
  intro codec' h'
  cases h' with
  | option _ _ hitem => exact (h hitem).option flag isFixed

theorem set (hcount : lengthOf? count = some length) (h : resolver.HasWire item codec) :
    resolver.HasWire (.set item count) (.set codec length) := by
  intro codec' h'
  cases h' with
  | set hcount' hitem =>
    obtain rfl := Option.some.inj (hcount.symm.trans hcount')
    exact (h hitem).set length

theorem map {key value : TypeNode} {keyCodec valueCodec : Codec}
    (hcount : lengthOf? count = some length) (hkey : resolver.HasWire key keyCodec)
    (hvalue : resolver.HasWire value valueCodec) :
    resolver.HasWire (.map key value count) (.map keyCodec valueCodec length) := by
  intro codec' h'
  cases h' with
  | map hcount' hkey' hvalue' =>
    obtain rfl := Option.some.inj (hcount.symm.trans hcount')
    exact (hkey hkey').map (hvalue hvalue') length

theorem tuple {items : List TypeNode} {codecs : List Codec}
    (h : List.Forall₂ resolver.HasWire items codecs) :
    resolver.HasWire (.tuple items) (.tuple codecs) := by
  intro codec' h'
  obtain ⟨codecs', rfl, hlays⟩ := forall₂_of_lays_tuple h'
  exact SameWire.tuple (forall₂_join (fun _ _ _ hwire hlays => hwire hlays) h hlays)

/-- A size around a type that is no text. -/
theorem fixedSize (size : Nat) (htext : ∀ encoding, inner ≠ .string encoding)
    (h : resolver.HasWire inner codec) :
    resolver.HasWire (.fixedSize inner size) (.fixedSize codec size) := by
  intro codec' h'
  cases h' with
  | fixedText => exact absurd rfl (htext .utf8)
  -- The size of bytes has become their length, which does not show on the wire.
  | fixedBytes => exact ((h .bytes).fixedSize size).trans (SameWire.fixedBytes size)
  | fixedSize _ _ _ hinner => exact (h hinner).fixedSize size

/-- A size in front of a type that is no text. -/
theorem sizePrefix (width : NumberFormat) (htext : ∀ encoding, inner ≠ .string encoding)
    (h : resolver.HasWire inner codec) :
    resolver.HasWire (.sizePrefix inner ⟨width, .little⟩) (.sizePrefixed codec width) := by
  intro codec' h'
  cases h' with
  | prefixedText => exact absurd rfl (htext .utf8)
  | prefixedBytes => exact ((h .bytes).sizePrefixed width).trans (SameWire.prefixedBytes width)
  | sizePrefix _ _ _ hinner => exact (h hinner).sizePrefixed width

/-- Nothing can be written behind a size that is a floating point number. -/
theorem floatPrefix {width : NumberFormat} (hfloat : width.isFloat = true) :
    resolver.HasWire (.sizePrefix inner ⟨width, .little⟩) (.sizePrefixed codec width) := by
  intro codec' h'
  have htext := SameWire.floatPrefix codec hfloat
  cases h' with
  | prefixedText => exact htext
  | prefixedBytes =>
    exact htext.trans ((SameWire.floatPrefix _ hfloat).symm.trans (SameWire.prefixedBytes width))
  | @sizePrefix _ codec' => exact htext.trans (SameWire.floatPrefix codec' hfloat).symm

end HasWire

/-- Every layout of the type of a field has the wire format of the field. -/
def FieldHasWire (resolver : Resolver) (field : StructField) (codec : FieldCodec) : Prop :=
  field.name = codec.name ∧ resolver.HasWire field.type codec.codec

theorem FieldHasWire.sameWire {field : StructField} {codec codec' : FieldCodec}
    (h : resolver.FieldHasWire field codec) (h' : resolver.FieldLays field codec') :
    codec.SameWire codec' :=
  ⟨h.1.symm.trans h'.1, h.2 h'.2⟩

theorem HasWire.struct (name : String) {fields : List StructField} {codecs : List FieldCodec}
    (h : List.Forall₂ resolver.FieldHasWire fields codecs) :
    resolver.HasWire (.struct fields) (.struct name codecs) := by
  intro codec' h'
  obtain ⟨name', codecs', rfl, hlays⟩ := forall₂_of_lays_struct h'
  refine SameWire.struct name name' (forall₂_join ?_ h hlays)
  exact fun _ _ _ => FieldHasWire.sameWire

/-- Every layout of a part of the variant has the wire format of that part of the payload. -/
def VariantHasWire (resolver : Resolver) (variant : EnumVariant) (payload : Payload) : Prop :=
  HasForm variant payload ∧ List.Forall₂ resolver.HasWire (variantTypes variant) payload.codecs

theorem VariantHasWire.sameWire {variant : EnumVariant} {payload payload' : Payload}
    (h : resolver.VariantHasWire variant payload) (h' : resolver.VariantLays variant payload') :
    payload.SameWire payload' := by
  have hlays := forall₂_of_variantLays h'
  obtain ⟨hform, hwire⟩ := h
  obtain ⟨hform', -⟩ := h'
  cases hform with
  | empty =>
    cases hform'
    exact .empty
  | tuple _ _ =>
    cases hform' with
    | tuple _ _ => exact .tuple (forall₂_join (fun _ _ _ hwire hlays => hwire hlays) hwire hlays)
  | struct _ hnames =>
    cases hform' with
    | struct _ hnames' =>
      simp only [variantTypes, Payload.codecs, List.forall₂_map_left_iff,
        List.forall₂_map_right_iff] at hwire hlays
      have hfields := hnames.mp (fun _ _ => And.intro) hwire
      have hfields' := hnames'.mp (fun _ _ => And.intro) hlays
      refine .struct (forall₂_join ?_ hfields hfields')
      exact fun _ _ _ => FieldHasWire.sameWire

theorem HasWire.enum (name : String) (size : NumberFormat) {variants : List EnumVariant}
    {codecs : List VariantCodec}
    (h : List.Forall₂ (fun variant codec => resolver.VariantHasWire variant codec.payload)
      variants codecs) :
    resolver.HasWire (.enum variants ⟨size, .little⟩) (.enum name size codecs) := by
  intro codec' h'
  obtain ⟨name', format, codecs', hsize, rfl, hlays⟩ := forall₂_of_lays_enum h'
  obtain ⟨rfl, -⟩ := NumberType.mk.inj hsize
  refine SameWire.enum name name' size (forall₂_join ?_ h hlays)
  exact fun _ _ _ => VariantHasWire.sameWire

/-- **All layouts of a type have the same wire format.** -/
theorem hasWire_of_lays {node : TypeNode} {codec : Codec} (h : resolver.Lays node codec) :
    resolver.HasWire node codec := by
  -- Each layout is compared with all others of its type, part by part.
  induction h with
  | number | amount | solAmount | dateTime | boolean | string | bytes | publicKey =>
    intro codec' h'
    cases h'
    exact SameWire.refl _
  | typedArray format size =>
    intro codec' h'
    have hnumber : resolver.HasWire (.number ⟨format, .little⟩) (.number format) := by
      intro codec' h'
      cases h'
      exact SameWire.refl _
    exact (SameWire.typedArray_list _ size).trans (HasWire.array rfl hnumber h')
  | fixedText size =>
    intro codec' h'
    cases h' with
    | fixedText => exact SameWire.refl _
    | fixedSize _ htext _ _ => exact absurd rfl (htext .utf8)
  | fixedBytes size =>
    intro codec' h'
    cases h' with
    | fixedBytes => exact SameWire.refl _
    | fixedSize _ _ hbytes _ => exact absurd rfl hbytes
  | prefixedText width =>
    intro codec' h'
    cases h' with
    | prefixedText => exact SameWire.refl _
    | sizePrefix _ htext _ _ => exact absurd rfl (htext .utf8)
  | prefixedBytes width =>
    intro codec' h'
    cases h' with
    | prefixedBytes => exact SameWire.refl _
    | sizePrefix _ _ hbytes _ => exact absurd rfl hbytes
  | array hcount _ ih => exact HasWire.array hcount ih
  | option flag isFixed _ ih => exact HasWire.option flag isFixed ih
  | set hcount _ ih => exact HasWire.set hcount ih
  | map hcount _ _ ihkey ihvalue => exact HasWire.map hcount ihkey ihvalue
  | tuple hlength _ ih =>
    exact HasWire.tuple (forall₂_of_zip hlength ih)
  | fixedSize size htext _ _ ih => exact HasWire.fixedSize size htext ih
  | sizePrefix width htext _ _ ih => exact HasWire.sizePrefix width htext ih
  -- Whether a link leads to a class or to an alias is settled by the dictionary.
  | reference kind hdefined hshape =>
    intro codec' h'
    cases h' with
    | reference kind' _ _ => exact SameWire.defined _ _ kind kind'
    | synonym hdefined' hshape' _ =>
      obtain rfl := Option.some.inj (hdefined.symm.trans hdefined')
      exact absurd hshape' hshape
  | synonym hdefined hshape _ ih =>
    intro codec' h'
    cases h' with
    | reference _ hdefined' hshape' =>
      obtain rfl := Option.some.inj (hdefined.symm.trans hdefined')
      exact absurd hshape hshape'
    | synonym hdefined' _ hlays =>
      obtain rfl := Option.some.inj (hdefined.symm.trans hdefined')
      exact ih hlays
  | struct name hnames _ ih =>
    refine HasWire.struct name (forall₂_of_zip hnames.length_eq fun part hpart => ?_)
    exact ⟨List.forall₂_zip hnames hpart, ih part hpart⟩
  | enum name size hlength hforms _ ih =>
    refine HasWire.enum name size (forall₂_of_zip hlength fun part hpart => ?_)
    have hform := hforms part hpart
    exact ⟨hform, forall₂_of_zip (length_codecs_of_hasForm hform) (ih part hpart)⟩
  | unknown kind =>
    intro codec' h'
    cases h' with
    | unknown kind' => exact SameWire.unknown kind kind'

end Resolver

/-! ## Types with a gap -/

/-- A type with a gap at one place. -/
inductive TypeGap where
  /-- The gap. -/
  | here
  /-- The gap is in the items of a list. -/
  | array (item : TypeGap) (count : Count)
  /-- The gap is in a value that may be absent. -/
  | option (item : TypeGap) (flag : NumberType) (isFixed : Bool)
  /-- The gap is in the items of a set. -/
  | set (item : TypeGap) (count : Count)
  /-- The gap is in the keys of a map. -/
  | mapKey (key : TypeGap) (value : TypeNode) (count : Count)
  /-- The gap is in the values of a map. -/
  | mapValue (key : TypeNode) (value : TypeGap) (count : Count)
  /-- The gap is in an item of a tuple. -/
  | tuple (before : List TypeNode) (item : TypeGap) (after : List TypeNode)
  /-- The gap is below a size. -/
  | fixedSize (inner : TypeGap) (size : Nat)
  /-- The gap is behind a size. -/
  | sizePrefix (inner : TypeGap) (width : NumberType)
  /-- The gap is in a field of a struct. -/
  | struct (before : List StructField) (field : StructField) (type : TypeGap)
      (after : List StructField)
  /-- The gap is in an unnamed part of a variant. -/
  | variantItem (before : List EnumVariant) (name : String) (itemsBefore : List TypeNode)
      (item : TypeGap) (itemsAfter : List TypeNode) (after : List EnumVariant) (size : NumberType)
  /-- The gap is in a named part of a variant. -/
  | variantField (before : List EnumVariant) (name : String) (fieldsBefore : List StructField)
      (field : StructField) (type : TypeGap) (fieldsAfter : List StructField)
      (after : List EnumVariant) (size : NumberType)

namespace TypeGap

/-- The type with the gap filled. -/
def fill : TypeGap → TypeNode → TypeNode
  | .here, node => node
  | .array item count, node => .array (item.fill node) count
  | .option item flag isFixed, node => .option (item.fill node) flag isFixed
  | .set item count, node => .set (item.fill node) count
  | .mapKey key value count, node => .map (key.fill node) value count
  | .mapValue key value count, node => .map key (value.fill node) count
  | .tuple before item after, node => .tuple (before ++ item.fill node :: after)
  | .fixedSize inner size, node => .fixedSize (inner.fill node) size
  | .sizePrefix inner width, node => .sizePrefix (inner.fill node) width
  | .struct before field type after, node =>
    .struct (before ++ { field with type := type.fill node } :: after)
  | .variantItem before name itemsBefore item itemsAfter after size, node =>
    .enum (before ++ .tuple name (itemsBefore ++ item.fill node :: itemsAfter) :: after) size
  | .variantField before name fieldsBefore field type fieldsAfter after size, node =>
    .enum (before ++ .struct name
      (fieldsBefore ++ { field with type := type.fill node } :: fieldsAfter) :: after) size

/-- Whether the gap stands directly below a size. A floating point number in front of a type is no
size, as nothing can be written behind it. -/
def isSized : TypeGap → Bool
  | .here => false
  | .fixedSize .here _ => true
  | .sizePrefix .here width => !width.format.isFloat
  | .array item _ | .option item _ _ | .set item _ | .mapKey item _ _ | .mapValue _ item _
  | .tuple _ item _ | .fixedSize item _ | .sizePrefix item _ | .struct _ _ item _
  | .variantItem _ _ _ item _ _ _ | .variantField _ _ _ _ item _ _ _ => item.isSized

theorem isSized_fixedSize {inner : TypeGap} {size : Nat} (h : inner.isSized = true) :
    (TypeGap.fixedSize inner size).isSized = true := by
  cases inner
  case here => rfl
  all_goals exact h

theorem isSized_sizePrefix {inner : TypeGap} {width : NumberType} (h : inner.isSized = true) :
    (TypeGap.sizePrefix inner width).isSized = true := by
  cases inner
  case here => cases h
  all_goals exact h

/-- A gap that is not the whole type is never filled to a text. -/
theorem fill_ne_string {gap : TypeGap} {node : TypeNode}
    (h : gap = .here → ∀ encoding, node ≠ .string encoding) (encoding : BytesEncoding) :
    gap.fill node ≠ .string encoding := by
  cases gap
  case here => exact h rfl encoding
  all_goals simp [fill]

end TypeGap

namespace Resolver

variable {resolver : Resolver}

theorem HasWire.of_sameWire {node : TypeNode} {codec codec' : Codec}
    (h : resolver.HasWire node codec) (hsame : codec.SameWire codec') :
    resolver.HasWire node codec' :=
  fun _ hlays => hsame.symm.trans (h hlays)

/-- A list has the wire format of a list of its items. -/
theorem sameWire_of_lays_array {item : TypeNode} {count : Count} {codec : Codec}
    (h : resolver.Lays (.array item count) codec) : ∃ inner length,
      lengthOf? count = some length ∧ resolver.Lays item inner ∧
        (Codec.list inner length).SameWire codec := by
  cases h with
  | @array _ inner _ length hcount hitem => exact ⟨inner, length, hcount, hitem, SameWire.refl _⟩
  | typedArray format size =>
    exact ⟨.number format, .fixed size, rfl, .number format,
      (SameWire.typedArray_list (.number format) size).symm⟩

/-- A size around a type that is no text has the wire format of a size around a layout of it. -/
theorem sameWire_of_lays_fixedSize {inner : TypeNode} {size : Nat} {codec : Codec}
    (htext : ∀ encoding, inner ≠ .string encoding)
    (h : resolver.Lays (.fixedSize inner size) codec) : ∃ innerCodec,
      resolver.Lays inner innerCodec ∧ (Codec.fixedSize innerCodec size).SameWire codec := by
  cases h with
  | fixedText => exact absurd rfl (htext .utf8)
  | fixedBytes => exact ⟨_, .bytes, SameWire.fixedBytes size⟩
  | fixedSize _ _ _ hinner => exact ⟨_, hinner, SameWire.refl _⟩

theorem sameWire_of_lays_sizePrefix {inner : TypeNode} {width : NumberType} {codec : Codec}
    (htext : ∀ encoding, inner ≠ .string encoding)
    (h : resolver.Lays (.sizePrefix inner width) codec) : ∃ format innerCodec,
      width = ⟨format, .little⟩ ∧ resolver.Lays inner innerCodec ∧
        (Codec.sizePrefixed innerCodec format).SameWire codec := by
  cases h with
  | prefixedText => exact absurd rfl (htext .utf8)
  | prefixedBytes format => exact ⟨format, _, rfl, .bytes, SameWire.prefixedBytes format⟩
  | sizePrefix format _ _ hinner => exact ⟨format, _, rfl, hinner, SameWire.refl _⟩

theorem variantHasWire_of_variantLays {variant : EnumVariant} {payload : Payload}
    (h : resolver.VariantLays variant payload) : resolver.VariantHasWire variant payload :=
  ⟨h.1, (forall₂_of_variantLays h).imp fun _ _ => hasWire_of_lays⟩

/-- A variant, after one of its unnamed parts has been exchanged. -/
theorem VariantLays.exchange_item {name : String} {before after : List TypeNode}
    {item node : TypeNode} {payload : Payload}
    (h : resolver.VariantLays (.tuple name (before ++ item :: after)) payload)
    (hitem : ∀ codec, resolver.Lays item codec → resolver.HasWire node codec) :
    resolver.VariantHasWire (.tuple name (before ++ node :: after)) payload := by
  have hparts := forall₂_exchange (fun _ _ => hasWire_of_lays) hitem (forall₂_of_variantLays h)
  obtain ⟨hform, -⟩ := h
  cases hform with
  | tuple _ _ => exact ⟨.tuple name hparts.length_eq, hparts⟩

/-- A variant, after the type of one of its named parts has been exchanged. -/
theorem VariantLays.exchange_field {name : String} {before after : List StructField}
    {field field' : StructField} {payload : Payload}
    (h : resolver.VariantLays (.struct name (before ++ field :: after)) payload)
    (hname : field.name = field'.name)
    (hfield : ∀ codec, resolver.Lays field.type codec → resolver.HasWire field'.type codec) :
    resolver.VariantHasWire (.struct name (before ++ field' :: after)) payload := by
  have htypes := forall₂_of_variantLays h
  simp only [variantTypes, List.map_append, List.map_cons] at htypes
  have hparts := forall₂_exchange (fun _ _ => hasWire_of_lays) hfield htypes
  obtain ⟨hform, -⟩ := h
  cases hform with
  | struct _ hnames =>
    refine ⟨.struct name (forall₂_exchange (x := field) ?_ ?_ hnames), ?_⟩
    · exact fun _ _ h => h
    · exact fun _ h => hname.symm.trans h
    simpa only [variantTypes, List.map_append, List.map_cons] using hparts

/-- **Replacing a link to an alias keeps the wire format**, unless the link stands directly below
a size and the alias is a text. -/
theorem hasWire_fill {name : String} {program : Option String} {defined : DefinedType}
    (hdefined : resolver.dictionary.definedType? resolver.program name program = some defined)
    (hshape : DefinedShape.ofType defined.type = .synonym) {gap : TypeGap} :
    ∀ {codec}, (gap.isSized = true → ∀ encoding, defined.type ≠ .string encoding) →
      resolver.Lays (gap.fill (.link name program)) codec →
      resolver.HasWire (gap.fill defined.type) codec := by
  -- The induction is on the way to the gap; beside the way the type stays as it is.
  induction gap with
  | here =>
    intro codec _ h
    cases h with
    | reference _ hdefined' hshape' =>
      obtain rfl := Option.some.inj (hdefined.symm.trans hdefined')
      exact absurd hshape hshape'
    | synonym hdefined' _ hlays =>
      obtain rfl := Option.some.inj (hdefined.symm.trans hdefined')
      exact hasWire_of_lays hlays
  | array item count ih =>
    intro codec hsize h
    obtain ⟨inner, length, hcount, hitem, hsame⟩ := sameWire_of_lays_array h
    exact (HasWire.array hcount (ih hsize hitem)).of_sameWire hsame
  | option item flag isFixed ih =>
    intro codec hsize h
    cases h with
    | option flag _ hitem => exact HasWire.option flag isFixed (ih hsize hitem)
  | set item count ih =>
    intro codec hsize h
    cases h with
    | set hcount hitem => exact HasWire.set hcount (ih hsize hitem)
  | mapKey key value count ih =>
    intro codec hsize h
    cases h with
    | map hcount hkey hvalue =>
      exact HasWire.map hcount (ih hsize hkey) (hasWire_of_lays hvalue)
  | mapValue key value count ih =>
    intro codec hsize h
    cases h with
    | map hcount hkey hvalue =>
      exact HasWire.map hcount (hasWire_of_lays hkey) (ih hsize hvalue)
  | tuple before item after ih =>
    intro codec hsize h
    obtain ⟨codecs, rfl, hlays⟩ := forall₂_of_lays_tuple h
    exact HasWire.tuple (forall₂_exchange (fun _ _ => hasWire_of_lays) (fun _ => ih hsize) hlays)
  | fixedSize inner size ih =>
    intro codec hsize h
    -- No link is a text, so the size has stayed a wrapper around it.
    have hlink : ∀ encoding, inner.fill (.link name program) ≠ .string encoding :=
      TypeGap.fill_ne_string fun _ encoding => by simp
    have htext : ∀ encoding, inner.fill defined.type ≠ .string encoding := by
      refine TypeGap.fill_ne_string fun hhere => ?_
      subst hhere
      exact hsize rfl
    obtain ⟨innerCodec, hinner, hsame⟩ := sameWire_of_lays_fixedSize hlink h
    have hwire := ih (fun hsized => hsize (TypeGap.isSized_fixedSize hsized)) hinner
    exact (HasWire.fixedSize size htext hwire).of_sameWire hsame
  | sizePrefix inner width ih =>
    intro codec hsize h
    have hlink : ∀ encoding, inner.fill (.link name program) ≠ .string encoding :=
      TypeGap.fill_ne_string fun _ encoding => by simp
    obtain ⟨format, innerCodec, rfl, hinner, hsame⟩ := sameWire_of_lays_sizePrefix hlink h
    -- Behind a floating point number nothing is written on either side.
    by_cases hfloat : format.isFloat = true
    · exact (HasWire.floatPrefix hfloat).of_sameWire hsame
    · have htext : ∀ encoding, inner.fill defined.type ≠ .string encoding := by
        refine TypeGap.fill_ne_string fun hhere => ?_
        subst hhere
        exact hsize (by simpa [TypeGap.isSized] using hfloat)
      have hwire := ih (fun hsized => hsize (TypeGap.isSized_sizePrefix hsized)) hinner
      exact (HasWire.sizePrefix format htext hwire).of_sameWire hsame
  | struct before field type after ih =>
    intro codec hsize h
    obtain ⟨className, codecs, rfl, hlays⟩ := forall₂_of_lays_struct h
    refine HasWire.struct className (forall₂_exchange ?_ ?_ hlays)
    · rintro _ _ ⟨hname, hlays⟩
      exact ⟨hname, hasWire_of_lays hlays⟩
    · rintro _ ⟨hname, hlays⟩
      exact ⟨hname, ih hsize hlays⟩
  | variantItem before variant itemsBefore item itemsAfter after size ih =>
    intro codec hsize h
    obtain ⟨className, format, codecs, rfl, rfl, hlays⟩ := forall₂_of_lays_enum h
    refine HasWire.enum className format (forall₂_exchange ?_ ?_ hlays)
    · exact fun _ _ => variantHasWire_of_variantLays
    · exact fun _ hvariant => VariantLays.exchange_item hvariant fun _ => ih hsize
  | variantField before variant fieldsBefore field type fieldsAfter after size ih =>
    intro codec hsize h
    obtain ⟨className, format, codecs, rfl, rfl, hlays⟩ := forall₂_of_lays_enum h
    refine HasWire.enum className format (forall₂_exchange ?_ ?_ hlays)
    · exact fun _ _ => variantHasWire_of_variantLays
    · exact fun _ hvariant => VariantLays.exchange_field hvariant rfl fun _ => ih hsize

end Resolver

end DartClient
