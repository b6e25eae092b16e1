import DartClient.Proofs.Manifest.Scope

/-!
# Shapes and layouts

A type that is itself a class is told twice: by a shape, from which the class is generated, and by a
layout, from which sizes, seeds and expressions are taken. Sizes around the class change the layout
and leave the shape. Named fields of a variant are resolved as a struct of their own, whose shape is
then taken apart. All the same both tell of one type: below the sizes the layout has the fields of
the shape, or its variants, in the order in which the type declares them.

## Main definitions

* `Codec.core`: a layout below the sizes around it.
* `VariantAgrees`: a variant of a shape and one of a layout are those that a type declares at an
  index.
* `ClassAgrees`: a shape and a layout are those of the class that a type is.

## Main results

* `Resolver.classAgrees_of_class`: a class that is its user is shown and laid out as its type tells.
* `Resolver.shape_agrees`: the shape and the layout of a type tell of the same class.
-/

namespace DartClient

open Idl (TypeNode StructField EnumVariant NumberType NumberFormat)

/-! ## Below sizes -/

/-- A layout below the sizes around it. -/
def Codec.core : Codec → Codec
  | .fixedSize inner _ | .sizePrefixed inner _ => inner.core
  | codec => codec

namespace Resolver

/-- A size around a type with a layout of its own is a size around this layout. -/
theorem lays_of_sized {resolver : Resolver} {node item : TypeNode} {codec inner : Codec}
    (hsized : node.sized? = some item) (hinner : codec.element? = some inner)
    (h : resolver.Lays node codec) :
    resolver.Lays item inner ∧ codec.core = inner.core := by
  cases h with
  | fixedSize _ _ _ h | sizePrefix _ _ _ h =>
    obtain rfl := Option.some.inj hsized
    obtain rfl := Option.some.inj hinner
    exact ⟨h, rfl⟩
  -- The size of a text or of bytes is their length.
  | fixedText | fixedBytes | prefixedText | prefixedBytes => cases hinner
  | _ => cases hsized

end Resolver

/-! ## Classes -/

/-- A variant of a shape and a variant of a layout are those of the variant that a type declares at
an index. -/
structure VariantAgrees (index : Nat) (declared : EnumVariant) (shown : VariantManifest)
    (codec : VariantCodec) : Prop where
  /-- The shape has it at the index. -/
  shownIndex : shown.index = index
  /-- The layout has it at the index. -/
  codecIndex : codec.index = index
  /-- The class is called like the variant. -/
  shownName : shown.name = className declared.name
  /-- The layout names the class. -/
  codecName : codec.name = shown.name
  /-- The payload has the items or fields that are declared. -/
  form : HasForm declared codec.payload
  /-- The payloads are of one kind, with the same names. -/
  payload : codec.payload = shown.payload.codec
  /-- The parts of the payload are laid out as the fields that are shown. -/
  codecs : codec.payload.codecs = shown.payload.fields.map FieldManifest.codec

/-- A shape and a layout are those of the class that a type is. The class is called as its place
says. -/
inductive ClassAgrees (typeName : String → String) : TypeNode → Shape → Codec → Prop
  | struct {declared : List StructField} {shown : List FieldManifest}
      (hnames : shown.map FieldManifest.sourceName = declared.map StructField.name) :
      ClassAgrees typeName (.struct declared) (.struct shown)
        (.struct (typeName "AnonymousStruct") (shown.map FieldManifest.entry))
  | enum (size : NumberFormat) {declared : List EnumVariant} {shown : List VariantManifest}
      {codecs : List VariantCodec} (hshown : shown.length = declared.length)
      (hcodecs : codecs.length = declared.length)
      (hvariants : ∀ index variant, declared[index]? = some variant → ∃ cls codec,
        shown[index]? = some cls ∧ codecs[index]? = some codec ∧
          VariantAgrees index variant cls codec) :
      ClassAgrees typeName (.enum declared ⟨size, .little⟩) (.enum size shown)
        (.enum (typeName "AnonymousEnum") size codecs)

namespace ClassAgrees

variable {typeName : String → String} {node : TypeNode} {shape : Shape} {codec : Codec}

theorem shape_ne_plain (h : ClassAgrees typeName node shape codec) : shape ≠ .plain := by
  cases h <;> exact nofun

theorem of_struct {shown : List FieldManifest}
    (h : ClassAgrees typeName node (.struct shown) codec) :
    ∃ declared, node = .struct declared ∧
      codec = .struct (typeName "AnonymousStruct") (shown.map FieldManifest.entry) ∧
      shown.map FieldManifest.sourceName = declared.map StructField.name := by
  cases h with
  | struct hnames => exact ⟨_, rfl, rfl, hnames⟩

theorem of_enum {size : NumberFormat} {shown : List VariantManifest}
    (h : ClassAgrees typeName node (.enum size shown) codec) :
    ∃ declared codecs, node = .enum declared ⟨size, .little⟩ ∧
      codec = .enum (typeName "AnonymousEnum") size codecs ∧
      shown.length = declared.length ∧ codecs.length = declared.length ∧
      ∀ index variant, declared[index]? = some variant → ∃ cls codec,
        shown[index]? = some cls ∧ codecs[index]? = some codec ∧
          VariantAgrees index variant cls codec := by
  cases h with
  | enum _ hshown hcodecs hvariants => exact ⟨_, _, rfl, rfl, hshown, hcodecs, hvariants⟩

/-- No size stands around a class. -/
theorem core_eq (h : ClassAgrees typeName node shape codec) : codec.core = codec := by
  cases h <;> rfl

end ClassAgrees

/-! ## One level -/

/-- The parts of a payload are those of its fields, in order. -/
theorem VariantPayload.codecs_codec (payload : VariantPayload) :
    payload.codec.codecs = payload.fields.map FieldManifest.codec := by
  cases payload with
  | empty | tuple => rfl
  | struct fields => exact List.map_map

namespace VariantManifest

variable {variants : List EnumVariant} {parts : List (List Manifest)}

/-- No variant is left out. -/
theorem length_ofVariants (hlength : variants.length = parts.length) (start : Nat) :
    (ofVariants start variants parts).length = variants.length := by
  have hnames := congrArg List.length (map_name_ofVariants start hlength)
  rwa [List.length_map, List.length_map] at hnames

/-- Variants are numbered in the order in which they are declared. -/
theorem exists_getElem?_ofVariants {variant : EnumVariant} (start : Nat)
    (hlength : variants.length = parts.length) {index : Nat}
    (h : variants[index]? = some variant) :
    ∃ part, (ofVariants start variants parts)[index]? = some ⟨className variant.name,
      memberName variant.name, start + index, .ofVariant variant part⟩ := by
  -- By induction on the variants: the number that the first one has grows along the list.
  induction variants generalizing parts start index with
  | nil => cases h
  | cons head variants ih =>
    cases parts with
    | nil => cases hlength
    | cons part parts =>
      cases index with
      | zero =>
        obtain rfl := Option.some.inj h
        exact ⟨part, rfl⟩
      | succ index =>
        obtain ⟨part, hpart⟩ := ih (start + 1) (Nat.succ.inj hlength) h
        rw [Nat.add_right_comm] at hpart
        exact ⟨part, hpart⟩

end VariantManifest

namespace Resolver

variable {resolver : Resolver} {node : TypeNode} {ctx : ResolveContext} {manifest : Manifest}

/-- A struct shows the fields that its layout has, and calls them as they are declared. -/
theorem classAgrees_of_struct {declared : List StructField} (hdeclares : ctx.declares = false)
    (h : resolver.Builds (.struct declared) ctx manifest)
    (hlays : resolver.Lays (.struct declared) manifest.codec) :
    ClassAgrees ctx.typeName (.struct declared) manifest.shape manifest.codec := by
  obtain ⟨children, rfl⟩ := exists_structClass_of_builds h
  rw [shape_structClass hdeclares]
  rw [structClass, codec_classManifest] at hlays ⊢
  apply ClassAgrees.struct
  -- No declared field has been left out: the layout has one for each, under its name.
  cases hlays with
  | struct _ hnames =>
    rw [List.forall₂_map_right_iff] at hnames
    rw [← List.forall₂_eq_eq_eq, List.forall₂_map_left_iff, List.forall₂_map_right_iff]
    exact hnames.flip.imp fun _ _ hname => hname.symm

/-- An enum shows the variants that its layout has, and has them as they are declared. -/
theorem classAgrees_of_enum {declared : List EnumVariant} {width : NumberType}
    (hdeclares : ctx.declares = false) (h : resolver.Builds (.enum declared width) ctx manifest)
    (hlays : resolver.Lays (.enum declared width) manifest.codec) :
    ClassAgrees ctx.typeName (.enum declared width) manifest.shape manifest.codec := by
  obtain ⟨size, parts, hlength, rfl⟩ := exists_enumClass_of_builds h
  rw [shape_enumClass hdeclares]
  rw [enumClass, codec_classManifest] at hlays ⊢
  cases hlays with
  | enum _ _ hcodecs hforms =>
    refine .enum size (VariantManifest.length_ofVariants hlength 0) hcodecs.symm ?_
    intro index variant hvariant
    obtain ⟨part, hshown⟩ := VariantManifest.exists_getElem?_ofVariants 0 hlength hvariant
    rw [Nat.zero_add] at hshown
    -- The layout has the variant in the place that it has in the shape.
    have hcodec := (List.getElem?_map ..).trans (congrArg (Option.map VariantManifest.codec) hshown)
    rw [Option.map_some] at hcodec
    have hform := hforms (_, _)
      (List.mem_of_getElem? (List.getElem?_zip_eq_some.mpr ⟨hvariant, hcodec⟩))
    refine ⟨_, _, hshown, hcodec, ?_⟩
    exact {
      shownIndex := rfl
      codecIndex := rfl
      shownName := rfl
      codecName := rfl
      form := hform
      payload := rfl
      codecs := VariantPayload.codecs_codec _ }

/-- **A class that is its user** is shown and laid out as its type tells. -/
theorem classAgrees_of_class (hclass : node.isClass = true) (hdeclares : ctx.declares = false)
    (h : resolver.Builds node ctx manifest) (hlays : resolver.Lays node manifest.codec) :
    ClassAgrees ctx.typeName node manifest.shape manifest.codec := by
  cases node
  case struct => exact classAgrees_of_struct hdeclares h hlays
  case enum => exact classAgrees_of_enum hdeclares h hlays
  all_goals cases hclass

/-! ## Shapes and layouts -/

/-- **The shape and the layout of a type** tell of the class that it is below its sizes. -/
theorem classAgrees_of_builds (h : resolver.Builds node ctx manifest)
    (hcore : node.core.isClass = true) :
    resolver.Lays node manifest.codec → ctx.declares = false →
      ClassAgrees ctx.typeName node.core manifest.shape manifest.codec.core := by
  refine induction_sizes ?_ ?_ h hcore
  · intro node ctx children manifest hclass _ hbuilds hlays hdeclares
    have hagrees := classAgrees_of_class hclass hdeclares hbuilds hlays
    rwa [TypeNode.core_of_isClass hclass, hagrees.core_eq]
  · intro node item ctx inner codec hsized hcodec ih hlays hdeclares
    obtain ⟨hitem, hbelow⟩ := lays_of_sized hsized hcodec hlays
    -- A size leaves the shape as it is, and the class is called as without it.
    show ClassAgrees ctx.item.typeName node.core inner.shape codec.core
    rw [TypeNode.core_of_sized? hsized, hbelow]
    exact ih hitem hdeclares

/-- **The shape and the layout of a type tell of the same class.** A type has a shape exactly if it
is a class below its sizes and does not stand beside its user. Below the sizes the layout of a
struct has the fields that are shown, each under its name in the description, and the layout of an
enum has the variants that are shown, each at its index, with the payload that is shown. Nothing
that is declared is left out, and all is in the order in which it is declared. -/
theorem shape_agrees (h : resolver.resolve node ctx = .ok manifest) :
    (manifest.shape = .plain ↔ node.core.isClass = false ∨ ctx.declares = true) ∧
    (∀ shown, manifest.shape = .struct shown → ∃ declared, node.core = .struct declared ∧
      manifest.codec.core =
        .struct (ctx.typeName "AnonymousStruct") (shown.map FieldManifest.entry) ∧
      shown.map FieldManifest.sourceName = declared.map StructField.name) ∧
    (∀ size shown, manifest.shape = .enum size shown → ∃ declared codecs,
      node.core = .enum declared ⟨size, .little⟩ ∧
      manifest.codec.core = .enum (ctx.typeName "AnonymousEnum") size codecs ∧
      shown.length = declared.length ∧ codecs.length = declared.length ∧
      ∀ index variant, declared[index]? = some variant → ∃ cls codec,
        shown[index]? = some cls ∧ codecs[index]? = some codec ∧
          VariantAgrees index variant cls codec) := by
  have hbuilds := builds_of_resolve h
  have hplain : node.core.isClass = false ∨ ctx.declares = true → manifest.shape = .plain := by
    rintro (hcore | hdeclares)
    · exact shape_eq_plain_of_builds hbuilds hcore
    · exact shape_of_builds hbuilds hdeclares
  -- In every other case the shape is that of a class.
  have hagrees (hneither : ¬ (node.core.isClass = false ∨ ctx.declares = true)) :
      ClassAgrees ctx.typeName node.core manifest.shape manifest.codec.core := by
    obtain ⟨hcore, hdeclares⟩ := not_or.mp hneither
    apply classAgrees_of_builds hbuilds _ (lays_of_resolve h)
    · simpa using hdeclares
    · simpa using hcore
  refine ⟨⟨fun hshape => ?_, hplain⟩, fun shown hshape => ?_, fun size shown hshape => ?_⟩
  · by_contra hneither
    exact (hagrees hneither).shape_ne_plain hshape
  · have hstruct := hagrees fun heither => by cases (hplain heither).symm.trans hshape
    rw [hshape] at hstruct
    exact hstruct.of_struct
  · have henum := hagrees fun heither => by cases (hplain heither).symm.trans hshape
    rw [hshape] at henum
    exact henum.of_enum

/-- A choice between nothing, two numbers and a number with a name, behind its size and in a fixed
number of bytes. -/
def sizedChoice : TypeNode :=
  .fixedSize (.sizePrefix (.enum [.empty "none",
    .tuple "pair" [.littleNumber .u8, .littleNumber .u16],
    .struct "named" [.plain "count" (.littleNumber .u8)]] ⟨.u8, .little⟩) ⟨.u32, .little⟩) 64

/-- The choice shows three variants, and its layout has them below both sizes. -/
theorem shape_agrees_sizedChoice : ∃ manifest,
    inPlace.resolve sizedChoice (.root "Choice" .type) = .ok manifest ∧
    ∃ shown codecs, manifest.shape = .enum .u8 shown ∧
      manifest.codec.core = .enum "Choice" .u8 codecs ∧ shown.length = 3 ∧ codecs.length = 3 ∧
      ∃ cls codec, shown[2]? = some cls ∧ codecs[2]? = some codec ∧
        VariantAgrees 2 (.struct "named" [.plain "count" (.littleNumber .u8)]) cls codec := by
  have hresolved : ∃ manifest shown,
      inPlace.resolve sizedChoice (.root "Choice" .type) = .ok manifest ∧
      manifest.shape = .enum .u8 shown := ⟨_, _, rfl, rfl⟩
  obtain ⟨manifest, shown, h, hshape⟩ := hresolved
  obtain ⟨declared, codecs, hcore, hcodec, hshown, hcodecs, hvariants⟩ :=
    (shape_agrees h).2.2 _ _ hshape
  obtain ⟨rfl, -⟩ := TypeNode.enum.inj hcore
  exact ⟨manifest, h, shown, codecs, hshape, hcodec, hshown, hcodecs, hvariants 2 _ rfl⟩

end Resolver

end DartClient
