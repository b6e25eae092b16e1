import DartClient.Proofs.Codec.Sizes
import DartClient.Proofs.Wire.Equivalence

/-!
# Codecs without names of classes

The name of a class stands in a codec only to be spelled in generated code and in messages. What is
left without it writes and reads the same and has the same sizes. The names of fields, of variants
and of classes that stand elsewhere are kept.

## Main definitions

* `Codec.anonymous`: a codec without the names of the classes in it.

## Main results

* `Codec.sameWire_anonymous`: the wire format does not depend on the names.
* `Codec.maxSize?_anonymous`: nor does the greatest size.
-/

namespace DartClient

mutual

/-- The codec without the names of the structs and enums in it. -/
def Codec.anonymous : Codec → Codec
  | .option item flag isFixed => .option item.anonymous flag isFixed
  | .list item count => .list item.anonymous count
  | .typedArray item count => .typedArray item.anonymous count
  | .set item count => .set item.anonymous count
  | .map key value count => .map key.anonymous value.anonymous count
  | .tuple items => .tuple (anonymousItems items)
  | .struct _ fields => .struct "" (anonymousFields fields)
  | .enum _ size variants => .enum "" size (anonymousVariants variants)
  | .sizePrefixed inner width => .sizePrefixed inner.anonymous width
  | .fixedSize inner size => .fixedSize inner.anonymous size
  | codec => codec

/-- Items without names of classes. -/
def anonymousItems : List Codec → List Codec
  | [] => []
  | item :: items => item.anonymous :: anonymousItems items

/-- Fields without names of classes. -/
def anonymousFields : List FieldCodec → List FieldCodec
  | [] => []
  | ⟨name, codec⟩ :: fields => ⟨name, codec.anonymous⟩ :: anonymousFields fields

/-- A payload without names of classes. -/
def Payload.anonymous : Payload → Payload
  | .empty => .empty
  | .tuple items => .tuple (anonymousItems items)
  | .struct fields => .struct (anonymousFields fields)

/-- Variants without names of classes in their payloads. -/
def anonymousVariants : List VariantCodec → List VariantCodec
  | [] => []
  | ⟨name, index, payload⟩ :: variants =>
    ⟨name, index, payload.anonymous⟩ :: anonymousVariants variants

end

/-- A field without names of classes. -/
def FieldCodec.anonymous (field : FieldCodec) : FieldCodec := ⟨field.name, field.codec.anonymous⟩

/-- A variant without names of classes in its payload. -/
def VariantCodec.anonymous (variant : VariantCodec) : VariantCodec :=
  ⟨variant.name, variant.index, variant.payload.anonymous⟩

theorem anonymousItems_eq_map : ∀ items : List Codec,
    anonymousItems items = items.map Codec.anonymous
  | [] => rfl
  | item :: items => by rw [anonymousItems, anonymousItems_eq_map items, List.map_cons]

theorem anonymousFields_eq_map : ∀ fields : List FieldCodec,
    anonymousFields fields = fields.map FieldCodec.anonymous
  | [] => rfl
  | ⟨_, _⟩ :: fields => by
    rw [anonymousFields, anonymousFields_eq_map fields, List.map_cons, FieldCodec.anonymous]

theorem anonymousVariants_eq_map : ∀ variants : List VariantCodec,
    anonymousVariants variants = variants.map VariantCodec.anonymous
  | [] => rfl
  | ⟨_, _, _⟩ :: variants => by
    rw [anonymousVariants, anonymousVariants_eq_map variants, List.map_cons,
      VariantCodec.anonymous]

theorem map_codec_anonymousFields (fields : List FieldCodec) :
    (anonymousFields fields).map FieldCodec.codec =
      (fields.map FieldCodec.codec).map Codec.anonymous := by
  rw [anonymousFields_eq_map, List.map_map, List.map_map]
  rfl

/-- The parts of a payload without names of classes. -/
theorem Payload.codecs_anonymous (payload : Payload) :
    payload.anonymous.codecs = payload.codecs.map Codec.anonymous := by
  cases payload with
  | empty => rfl
  | tuple items => exact anonymousItems_eq_map items
  | struct fields => exact map_codec_anonymousFields fields

/-! ## The wire format -/

/-- A list of parts, each of which is as good as its image. -/
theorem forall₂_map_self {α : Type} {R : α → α → Prop} {f : α → α} {l : List α}
    (h : ∀ a ∈ l, R (f a) a) : List.Forall₂ R (l.map f) l :=
  List.forall₂_map_left_iff.mpr (List.forall₂_same.mpr h)

theorem Payload.sameWire_anonymous {payload : Payload}
    (h : ∀ part ∈ payload.codecs, part.anonymous.SameWire part) :
    payload.anonymous.SameWire payload := by
  cases payload with
  | empty => exact .empty
  | tuple items =>
    show Payload.SameWire (.tuple (anonymousItems items)) _
    rw [anonymousItems_eq_map]
    exact .tuple (forall₂_map_self h)
  | struct fields =>
    show Payload.SameWire (.struct (anonymousFields fields)) _
    rw [anonymousFields_eq_map]
    exact .struct (forall₂_map_self fun field hfield =>
      ⟨rfl, h field.codec (List.mem_map_of_mem hfield)⟩)

namespace Codec

/-- **The wire format does not depend on the names of classes.** -/
theorem sameWire_anonymous (codec : Codec) : codec.anonymous.SameWire codec := by
  induction codec using induction_parts with
  | step codec ih =>
  -- A typed list has no name, but it is read and written as the list that it stands for.
  cases codec
  case option item flag isFixed => exact (ih item List.mem_cons_self).option flag isFixed
  case list item count => exact (ih item List.mem_cons_self).list count
  case typedArray item count =>
    refine (SameWire.typedArray_list item.anonymous count).trans ?_
    exact ((ih item List.mem_cons_self).list (.fixed count)).trans
      (SameWire.typedArray_list item count).symm
  case set item count => exact (ih item List.mem_cons_self).set count
  case map key value count =>
    exact (ih key List.mem_cons_self).map (ih value (List.mem_cons_of_mem key List.mem_cons_self))
      count
  case tuple items =>
    rw [anonymous, anonymousItems_eq_map]
    exact .tuple (forall₂_map_self ih)
  case struct name fields =>
    rw [anonymous, anonymousFields_eq_map]
    refine .struct "" name (forall₂_map_self fun field hfield => ⟨rfl, ?_⟩)
    exact ih field.codec (List.mem_map_of_mem hfield)
  case enum name size variants =>
    rw [anonymous, anonymousVariants_eq_map]
    refine .enum "" name size (forall₂_map_self fun variant hvariant => ?_)
    apply Payload.sameWire_anonymous
    intro part hpart
    exact ih part (List.mem_flatMap.mpr ⟨variant, hvariant, hpart⟩)
  case sizePrefixed inner width => exact (ih inner List.mem_cons_self).sizePrefixed width
  case fixedSize inner size => exact (ih inner List.mem_cons_self).fixedSize size
  all_goals exact .refl _

/-! ## Sizes -/

theorem fixedSize?_anonymous (codec : Codec) : codec.anonymous.fixedSize? = codec.fixedSize? :=
  codec.sameWire_anonymous.size

theorem maxSizeOfItems_anonymous {items : List Codec}
    (h : ∀ item ∈ items, item.anonymous.maxSize? = item.maxSize?) :
    maxSizeOfItems (items.map anonymous) = maxSizeOfItems items := by
  rw [maxSizeOfItems_eq_rowSize?, maxSizeOfItems_eq_rowSize?, List.map_map]
  exact congrArg rowSize? (List.map_congr_left h)

/-- **The greatest size does not depend on the names of classes.** -/
theorem maxSize?_anonymous (codec : Codec) : codec.anonymous.maxSize? = codec.maxSize? := by
  induction codec using induction_parts with
  | step codec ih =>
  cases codec
  case option item flag isFixed => simp only [anonymous, maxSize?, ih item List.mem_cons_self]
  case list item count | set item count =>
    cases count
    case fixed count => simp only [anonymous, maxSize?, ih item List.mem_cons_self]
    all_goals rfl
  case map key value count =>
    cases count
    case fixed count =>
      simp only [anonymous, maxSize?, ih key List.mem_cons_self,
        ih value (List.mem_cons_of_mem key List.mem_cons_self)]
    all_goals rfl
  case tuple items =>
    simp only [anonymous, maxSize?, anonymousItems_eq_map]
    exact maxSizeOfItems_anonymous ih
  case struct name fields =>
    simp only [anonymous, maxSize?, maxSizeOfFields_eq_items, map_codec_anonymousFields]
    exact maxSizeOfItems_anonymous ih
  case enum name size variants =>
    have hpayloads : maxSizesOfVariants (anonymousVariants variants) =
        maxSizesOfVariants variants := by
      rw [anonymousVariants_eq_map, maxSizesOfVariants_eq_map, maxSizesOfVariants_eq_map,
        List.map_map]
      refine List.map_congr_left fun variant hvariant => ?_
      show maxSizeOfItems variant.payload.anonymous.codecs = _
      rw [Payload.codecs_anonymous]
      refine maxSizeOfItems_anonymous fun part hpart => ih part ?_
      exact List.mem_flatMap.mpr ⟨variant, hvariant, hpart⟩
    simp only [anonymous, maxSize?, hpayloads]
  -- What has no other greatest size has its exact size.
  case typedArray item count => exact (Codec.typedArray item count).fixedSize?_anonymous
  all_goals rfl

/-! ## Codecs that differ in names only -/

/-- Codecs that are the same without names of classes have the same wire format. -/
theorem sameWire_of_anonymous_eq {codec codec' : Codec} (h : codec.anonymous = codec'.anonymous) :
    codec.SameWire codec' := by
  refine codec.sameWire_anonymous.symm.trans ?_
  rw [h]
  exact codec'.sameWire_anonymous

theorem maxSize?_eq_of_anonymous_eq {codec codec' : Codec}
    (h : codec.anonymous = codec'.anonymous) : codec.maxSize? = codec'.maxSize? := by
  rw [← codec.maxSize?_anonymous, h, codec'.maxSize?_anonymous]

end Codec

end DartClient
