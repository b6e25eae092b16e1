import DartClient.Proofs.Codec.Anonymous

/-!
# Relations that every kind of codec keeps

A relation between codecs is a congruence if codecs whose parts are related are related themselves,
whatever their classes are called. What two runs that put codecs together part by part have in
common is told for all congruences at once.

## Main definitions

* `FieldCodec.Related`, `Payload.Related`, `VariantCodec.Related`: parts of classes that are
  related.
* `Codec.IsCongruence`: relations that every kind of codec keeps.
* `Codec.SameFormat`: codecs with the same wire format and the same sizes.

## Main results

* `Codec.isCongruence_anonymous`: differing in the names of classes only is a congruence.
* `Codec.isCongruence_sameFormat`: having the same format is a congruence.
-/

namespace DartClient

open Idl (NumberFormat)

/-! ## Lists that cannot be told apart -/

section Lists

variable {α β γ δ : Type} {R : α → β → Prop}

/-- Lists that are related member by member have the same images under functions that respect the
relation. -/
theorem map_eq_of_forall₂ {f : α → γ} {g : β → γ} (hfg : ∀ a b, R a b → f a = g b)
    {l : List α} {l' : List β} (h : List.Forall₂ R l l') : l.map f = l'.map g := by
  rw [← List.forall₂_eq_eq_eq, List.forall₂_map_left_iff, List.forall₂_map_right_iff]
  exact h.imp hfg

theorem flatMap_eq_of_forall₂ {f : α → List γ} {g : β → List γ} (hfg : ∀ a b, R a b → f a = g b)
    {l : List α} {l' : List β} (h : List.Forall₂ R l l') : l.flatMap f = l'.flatMap g := by
  rw [List.flatMap_def, List.flatMap_def, map_eq_of_forall₂ hfg h]

/-- The images of related lists are related if those of related members are. -/
theorem forall₂_map {S : γ → δ → Prop} {f : α → γ} {g : β → δ}
    (hfg : ∀ a b, R a b → S (f a) (g b)) {l : List α} {l' : List β} (h : List.Forall₂ R l l') :
    List.Forall₂ S (l.map f) (l'.map g) := by
  rw [List.forall₂_map_left_iff, List.forall₂_map_right_iff]
  exact h.imp hfg

end Lists

/-! ## Related parts -/

section Related

variable (R : Codec → Codec → Prop)

/-- Fields of one name with related codecs. -/
def FieldCodec.Related (field field' : FieldCodec) : Prop :=
  field.name = field'.name ∧ R field.codec field'.codec

/-- Payloads of one form with related parts. -/
inductive Payload.Related : Payload → Payload → Prop
  | empty : Payload.Related .empty .empty
  | tuple {items items' : List Codec} (h : List.Forall₂ R items items') :
      Payload.Related (.tuple items) (.tuple items')
  | struct {fields fields' : List FieldCodec}
      (h : List.Forall₂ (FieldCodec.Related R) fields fields') :
      Payload.Related (.struct fields) (.struct fields')

/-- Variants of one name and index with related payloads. -/
def VariantCodec.Related (variant variant' : VariantCodec) : Prop :=
  variant.name = variant'.name ∧ variant.index = variant'.index ∧
    Payload.Related R variant.payload variant'.payload

/-- Codecs with related parts are related, whatever their classes are called. -/
structure Codec.IsCongruence : Prop where
  refl (codec : Codec) : R codec codec
  option {item item' : Codec} (flag : NumberFormat) (isFixed : Bool) (h : R item item') :
    R (.option item flag isFixed) (.option item' flag isFixed)
  list {item item' : Codec} (count : Length) (h : R item item') :
    R (.list item count) (.list item' count)
  set {item item' : Codec} (count : Length) (h : R item item') :
    R (.set item count) (.set item' count)
  map {key key' value value' : Codec} (count : Length) (hkey : R key key')
    (hvalue : R value value') : R (.map key value count) (.map key' value' count)
  tuple {items items' : List Codec} (h : List.Forall₂ R items items') :
    R (.tuple items) (.tuple items')
  struct {fields fields' : List FieldCodec} (name name' : String)
    (h : List.Forall₂ (FieldCodec.Related R) fields fields') :
    R (.struct name fields) (.struct name' fields')
  enum {variants variants' : List VariantCodec} (name name' : String) (size : NumberFormat)
    (h : List.Forall₂ (VariantCodec.Related R) variants variants') :
    R (.enum name size variants) (.enum name' size variants')
  sizePrefixed {inner inner' : Codec} (width : NumberFormat) (h : R inner inner') :
    R (.sizePrefixed inner width) (.sizePrefixed inner' width)
  fixedSize {inner inner' : Codec} (size : Nat) (h : R inner inner') :
    R (.fixedSize inner size) (.fixedSize inner' size)

variable {R}

/-- The parts of related payloads. -/
theorem Payload.Related.codecs {payload payload' : Payload} (h : payload.Related R payload') :
    List.Forall₂ R payload.codecs payload'.codecs := by
  cases h with
  | empty => exact .nil
  | tuple h => exact h
  | struct h => exact forall₂_map (fun _ _ hfield => hfield.2) h

end Related

/-! ## Codecs that differ in names only -/

/-- The codecs are the same up to the names of classes. -/
def Codec.SameNameless (codec codec' : Codec) : Prop := codec.anonymous = codec'.anonymous

theorem anonymousItems_eq_of_forall₂ {items items' : List Codec}
    (h : List.Forall₂ Codec.SameNameless items items') :
    anonymousItems items = anonymousItems items' := by
  rw [anonymousItems_eq_map, anonymousItems_eq_map]
  exact map_eq_of_forall₂ (fun _ _ hitem => hitem) h

theorem anonymousFields_eq_of_forall₂ {fields fields' : List FieldCodec}
    (h : List.Forall₂ (FieldCodec.Related Codec.SameNameless) fields fields') :
    anonymousFields fields = anonymousFields fields' := by
  rw [anonymousFields_eq_map, anonymousFields_eq_map]
  refine map_eq_of_forall₂ (fun field field' hfield => ?_) h
  obtain ⟨hname, hcodec⟩ := hfield
  rw [FieldCodec.anonymous, FieldCodec.anonymous, hname, hcodec]

theorem Payload.Related.anonymous_eq {payload payload' : Payload}
    (h : payload.Related Codec.SameNameless payload') :
    payload.anonymous = payload'.anonymous := by
  cases h with
  | empty => rfl
  | tuple h => exact congrArg Payload.tuple (anonymousItems_eq_of_forall₂ h)
  | struct h => exact congrArg Payload.struct (anonymousFields_eq_of_forall₂ h)

theorem anonymousVariants_eq_of_forall₂ {variants variants' : List VariantCodec}
    (h : List.Forall₂ (VariantCodec.Related Codec.SameNameless) variants variants') :
    anonymousVariants variants = anonymousVariants variants' := by
  rw [anonymousVariants_eq_map, anonymousVariants_eq_map]
  refine map_eq_of_forall₂ (fun variant variant' hvariant => ?_) h
  obtain ⟨hname, hindex, hpayload⟩ := hvariant
  rw [VariantCodec.anonymous, VariantCodec.anonymous, hname, hindex, hpayload.anonymous_eq]

namespace Codec

/-- Every kind of codec keeps that codecs differ in the names of classes only. -/
theorem isCongruence_anonymous : IsCongruence SameNameless where
  refl _ := rfl
  option flag isFixed h := congrArg (Codec.option · flag isFixed) h
  list count h := congrArg (Codec.list · count) h
  set count h := congrArg (Codec.set · count) h
  map count hkey hvalue := congrArg₂ (Codec.map · · count) hkey hvalue
  tuple h := congrArg Codec.tuple (anonymousItems_eq_of_forall₂ h)
  struct _ _ h := congrArg (Codec.struct "") (anonymousFields_eq_of_forall₂ h)
  enum _ _ size h := congrArg (Codec.enum "" size) (anonymousVariants_eq_of_forall₂ h)
  sizePrefixed width h := congrArg (Codec.sizePrefixed · width) h
  fixedSize size h := congrArg (Codec.fixedSize · size) h

end Codec

/-! ## Codecs of the same format -/

/-- The codecs have the same wire format and the same greatest size. -/
structure Codec.SameFormat (codec codec' : Codec) : Prop where
  /-- The wire format, with the exact size. -/
  wire : codec.SameWire codec'
  /-- The greatest size. -/
  maxSize : codec.maxSize? = codec'.maxSize?

theorem Codec.SameFormat.refl (codec : Codec) : codec.SameFormat codec :=
  ⟨.refl codec, rfl⟩

/-- Parts in a row that have the same greatest sizes have the same greatest size together. -/
theorem maxSizeOfItems_eq_of_forall₂ {items items' : List Codec}
    (h : List.Forall₂ Codec.SameFormat items items') :
    maxSizeOfItems items = maxSizeOfItems items' := by
  have hsizes := map_eq_of_forall₂ (fun _ _ hitem => Codec.SameFormat.maxSize hitem) h
  rw [maxSizeOfItems_eq_rowSize?, maxSizeOfItems_eq_rowSize?, hsizes]

theorem maxSizeOfFields_eq_of_forall₂ {fields fields' : List FieldCodec}
    (h : List.Forall₂ (FieldCodec.Related Codec.SameFormat) fields fields') :
    maxSizeOfFields fields = maxSizeOfFields fields' := by
  rw [maxSizeOfFields_eq_items, maxSizeOfFields_eq_items]
  exact maxSizeOfItems_eq_of_forall₂ (forall₂_map (fun _ _ hfield => hfield.2) h)

theorem maxSizesOfVariants_eq_of_forall₂ {variants variants' : List VariantCodec}
    (h : List.Forall₂ (VariantCodec.Related Codec.SameFormat) variants variants') :
    maxSizesOfVariants variants = maxSizesOfVariants variants' := by
  rw [maxSizesOfVariants_eq_map, maxSizesOfVariants_eq_map]
  exact map_eq_of_forall₂ (fun _ _ hvariant => maxSizeOfItems_eq_of_forall₂ hvariant.2.2.codecs) h

theorem sameWire_of_fieldRelated {fields fields' : List FieldCodec}
    (h : List.Forall₂ (FieldCodec.Related Codec.SameFormat) fields fields') :
    List.Forall₂ FieldCodec.SameWire fields fields' :=
  h.imp fun _ _ hfield => ⟨hfield.1, hfield.2.wire⟩

theorem Payload.Related.sameWire {payload payload' : Payload}
    (h : payload.Related Codec.SameFormat payload') : payload.SameWire payload' := by
  cases h with
  | empty => exact .empty
  | tuple h => exact .tuple (h.imp fun _ _ hitem => hitem.wire)
  | struct h => exact .struct (sameWire_of_fieldRelated h)

namespace Codec

/-- Every kind of codec keeps that codecs have the same format. -/
theorem isCongruence_sameFormat : IsCongruence SameFormat where
  refl := .refl
  option flag isFixed h := ⟨h.wire.option flag isFixed, by simp only [maxSize?, h.maxSize]⟩
  list count h :=
    ⟨h.wire.list count, by cases count <;> simp only [maxSize?, h.maxSize, fixedSize?]⟩
  set count h := ⟨h.wire.set count, by cases count <;> simp only [maxSize?, h.maxSize, fixedSize?]⟩
  map count hkey hvalue :=
    ⟨hkey.wire.map hvalue.wire count, by
      cases count <;> simp only [maxSize?, hkey.maxSize, hvalue.maxSize, fixedSize?]⟩
  tuple h := ⟨.tuple (h.imp fun _ _ hitem => hitem.wire), maxSizeOfItems_eq_of_forall₂ h⟩
  struct name name' h :=
    ⟨.struct name name' (sameWire_of_fieldRelated h), maxSizeOfFields_eq_of_forall₂ h⟩
  enum name name' size h :=
    ⟨.enum name name' size (h.imp fun _ _ hvariant => hvariant.2.2.sameWire), by
      simp only [maxSize?, maxSizesOfVariants_eq_of_forall₂ h]⟩
  sizePrefixed width h := ⟨h.wire.sizePrefixed width, rfl⟩
  fixedSize size h := ⟨h.wire.fixedSize size, rfl⟩

namespace SameFormat

/-- A size around a text or bytes is their length. -/
theorem fixedText (size : Nat) :
    (Codec.string (.fixed size)).SameFormat (.fixedSize (.string .remainder) size) :=
  ⟨(SameWire.fixedText size).symm, rfl⟩

theorem fixedBytes (size : Nat) :
    (Codec.bytes (.fixed size)).SameFormat (.fixedSize (.bytes .remainder) size) :=
  ⟨(SameWire.fixedBytes size).symm, rfl⟩

/-- A size in front of a text or bytes is their length. -/
theorem prefixedText (width : NumberFormat) :
    (Codec.string (.prefixed width)).SameFormat (.sizePrefixed (.string .remainder) width) :=
  ⟨(SameWire.prefixedText width).symm, rfl⟩

theorem prefixedBytes (width : NumberFormat) :
    (Codec.bytes (.prefixed width)).SameFormat (.sizePrefixed (.bytes .remainder) width) :=
  ⟨(SameWire.prefixedBytes width).symm, rfl⟩

/-- A typed list is a list of its numbers, which all have the same size. -/
theorem typedList {format : NumberFormat} {width : Nat} (h : format.byteWidth? = some width)
    (count : Nat) : (Codec.typedArray (.number format) count).SameFormat
      (.list (.number format) (.fixed count)) where
  wire := .typedArray_list (.number format) count
  maxSize := by
    have hmax : format.maxWidth = width := Idl.NumberFormat.maxWidth_of_byteWidth? h
    simp only [maxSize?, fixedSize?, h, hmax]

end SameFormat

end Codec

end DartClient
