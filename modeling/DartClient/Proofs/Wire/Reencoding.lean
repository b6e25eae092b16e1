import DartClient.Proofs.Wire.Canonical
import DartClient.Proofs.Wire.Encoding

/-!
# The canonical form has the same bytes

A value and its canonical form are written alike. As for reading back, this is proved for each kind
of codec from what holds of the places of the value, and carried to the whole by induction along
the parts. Distinct names are needed: fields of the same name are written with the same value, but
come back one by one.

## Main definitions

* `Codec.SameBytes`: the canonical form of a value has its bytes.

## Main results

* `Codec.sameBytes_of_places`: a value is written like its canonical form if its parts are.
* `Codec.DistinctNames.sameBytes`: so is every value.
-/

namespace DartClient

open Step

/-- The bytes of a value are the bytes of its canonical form. -/
def Codec.SameBytes (codec : Codec) (value : Value) : Prop :=
  ∀ bytes, Writes (codec.write value) bytes → Writes (codec.write (codec.canonical value)) bytes

theorem writes_each_map {α : Type} {write : α → Step Unit} {f : α → α}
    (happ : ∀ a, AppendsOnly (write a)) : ∀ {items : List α} {bytes : List UInt8},
    (∀ a ∈ items, ∀ part, Writes (write a) part → Writes (write (f a)) part) →
      Writes (each write items) bytes → Writes (each write (items.map f)) bytes
  | [], _, _, h => h
  | a :: items, bytes, hitems, h => by
    obtain ⟨front, back, hfront, hback, rfl⟩ := (writes_each_cons_iff happ).mp h
    have hhead := hitems a List.mem_cons_self front hfront
    have htail := writes_each_map happ (fun a ha => hitems a (List.mem_cons_of_mem _ ha)) hback
    exact (writes_each_cons_iff happ).mpr ⟨front, back, hhead, htail, rfl⟩

theorem writes_canonicalItems : ∀ {items : List Codec} {values : List Value} {bytes : List UInt8},
    (∀ place ∈ items.zip values, place.1.SameBytes place.2) →
      Writes (writeItems items values) bytes →
        Writes (writeItems items (Codec.canonicalItems items values)) bytes
  | [], _, _, _, h => h
  | _ :: _, [], _, _, h => h
  | item :: items, value :: values, bytes, hplaces, h => by
    obtain ⟨front, back, hfront, hback, rfl⟩ := writes_items_cons_iff.mp h
    rw [List.zip_cons_cons] at hplaces
    have hhead := hplaces (item, value) List.mem_cons_self front hfront
    have htail := writes_canonicalItems
      (fun place hplace => hplaces place (List.mem_cons_of_mem _ hplace)) hback
    exact writes_items_cons_iff.mpr ⟨front, back, hhead, htail, rfl⟩

/-- Fields are written alike with any values in which each field has the canonical form of its
value. -/
theorem writes_fields_of_lookup {values target : List (String × Value)} :
    ∀ {fields : List FieldCodec} {bytes : List UInt8},
    (∀ place ∈ placesOfFields fields values, place.1.SameBytes place.2) →
      (∀ field ∈ fields, ∀ value, values.lookup field.name = some value →
        target.lookup field.name = some (field.codec.canonical value)) →
      Writes (writeFields fields values) bytes → Writes (writeFields fields target) bytes
  | [], _, _, _, h => h
  | ⟨name, codec⟩ :: fields, bytes, hplaces, htarget, h => by
    obtain ⟨value, hvalue, front, back, hfront, hback, rfl⟩ := writes_fields_cons_iff.mp h
    -- The field has a value, or nothing would have been written.
    have hcons : placesOfFields (⟨name, codec⟩ :: fields) values =
        (codec, value) :: placesOfFields fields values := by
      simp [placesOfFields, hvalue]
    rw [hcons] at hplaces
    have hhead := hplaces (codec, value) List.mem_cons_self front hfront
    have htail := writes_fields_of_lookup
      (fun place hplace => hplaces place (List.mem_cons_of_mem _ hplace))
      (fun field hfield => htarget field (List.mem_cons_of_mem _ hfield)) hback
    exact writes_fields_cons_iff.mpr
      ⟨_, htarget _ List.mem_cons_self value hvalue, front, back, hhead, htail, rfl⟩

namespace Codec

variable {codec : Codec} {value : Value}

theorem sameBytes_list {item : Codec} {count : Length}
    (hplaces : ∀ place ∈ (Codec.list item count).places value, place.1.SameBytes place.2) :
    (Codec.list item count).SameBytes value := by
  intro bytes h
  obtain ⟨items, front, back, rfl, hfront, hback, rfl⟩ := writes_list_iff.mp h
  have hitems := writes_each_map item.write_appendsOnly
    (fun value hvalue => hplaces (item, value) (List.mem_map_of_mem hvalue)) hback
  refine writes_list_iff.mpr ⟨_, front, back, rfl, ?_, hitems, rfl⟩
  rw [List.length_map]
  exact hfront

theorem sameBytes_map {key val : Codec} {count : Length}
    (hplaces : ∀ place ∈ (Codec.map key val count).places value, place.1.SameBytes place.2) :
    (Codec.map key val count).SameBytes value := by
  intro bytes h
  obtain ⟨entries, front, back, rfl, hfront, hback, rfl⟩ := writes_map_iff.mp h
  have hentries : Writes (each (key.writeEntry val)
      (entries.map fun entry => (key.canonical entry.1, val.canonical entry.2))) back := by
    refine writes_each_map (key.writeEntry_appendsOnly val) ?_ hback
    intro entry hentry part hpart
    obtain ⟨kpart, vpart, hk, hv, rfl⟩ := writes_entry_iff.mp hpart
    have hmem : ∀ place ∈ [(key, entry.1), (val, entry.2)], place.1.SameBytes place.2 :=
      fun place hplace => hplaces place (List.mem_flatMap.mpr ⟨entry, hentry, hplace⟩)
    have hkey := hmem _ List.mem_cons_self kpart hk
    have hval := hmem _ (List.mem_cons_of_mem _ List.mem_cons_self) vpart hv
    exact writes_entry_iff.mpr ⟨kpart, vpart, hkey, hval, rfl⟩
  refine writes_map_iff.mpr ⟨_, front, back, rfl, ?_, hentries, rfl⟩
  rw [List.length_map]
  exact hfront

theorem sameBytes_enum {name : String} {size : Idl.NumberFormat} {variants : List VariantCodec}
    (hnames : (Codec.enum name size variants).OwnNamesDistinct)
    (hplaces : ∀ place ∈ (Codec.enum name size variants).places value,
      place.1.SameBytes place.2) :
    (Codec.enum name size variants).SameBytes value := by
  intro bytes h
  obtain ⟨index, values, rfl, h⟩ := writes_enum_iff.mp h
  obtain ⟨variant, hvariant, harity, front, back, hfront, hback, rfl⟩ := writes_variant_iff.mp h
  have hown := hnames variant (List.mem_of_getElem? hvariant)
  have hlength := variant.payload.length_codecs
  rw [places_enum hvariant] at hplaces
  -- With distinct names a struct payload is written item by item.
  rw [Payload.write_eq hown harity] at hback
  have harity' : (canonicalItems variant.payload.codecs values).length = variant.payload.arity := by
    rw [length_canonicalItems, hlength, harity, Nat.min_self]
  rw [canonical_enum hvariant]
  refine writes_enum_iff.mpr ⟨index, _, rfl, ?_⟩
  refine writes_variant_iff.mpr ⟨variant, hvariant, harity', front, back, hfront, ?_, rfl⟩
  rw [Payload.write_eq hown harity']
  exact writes_canonicalItems hplaces hback

/-- **A value is written like its canonical form if its parts are.** -/
theorem sameBytes_of_places (hnames : codec.OwnNamesDistinct)
    (hplaces : ∀ place ∈ codec.places value, place.1.SameBytes place.2) :
    codec.SameBytes value := by
  cases codec
  case number format => exact fun bytes h => writes_canonicalNumber h
  case option item flag isFixed =>
    intro bytes h
    rcases writes_option_iff.mp h with ⟨inner, rfl, front, back, hfront, hback, rfl⟩ |
      ⟨rfl, -⟩
    · have hinner := hplaces (item, inner) List.mem_cons_self back hback
      exact writes_option_iff.mpr (Or.inl ⟨_, rfl, front, back, hfront, hinner, rfl⟩)
    · exact h
  case list => exact sameBytes_list hplaces
  -- Sets and typed lists are written as lists.
  case set item count =>
    intro bytes h
    rw [places_set] at hplaces
    have hlist := sameBytes_list hplaces bytes (writes_set_iff.mp h)
    rw [show (Codec.set item count).canonical value = (Codec.list item count).canonical value by
      cases value <;> rfl]
    exact writes_set_iff.mpr hlist
  case typedArray item count =>
    intro bytes h
    rw [places_typedArray] at hplaces
    have hlist := sameBytes_list hplaces bytes (writes_typedArray_iff.mp h)
    rw [show (Codec.typedArray item count).canonical value =
      (Codec.list item (.fixed count)).canonical value by cases value <;> rfl]
    exact writes_typedArray_iff.mpr hlist
  case map => exact sameBytes_map hplaces
  case tuple items =>
    intro bytes h
    obtain ⟨values, rfl, harity, h⟩ := writes_tuple_iff.mp h
    refine writes_tuple_iff.mpr ⟨_, rfl, ?_, writes_canonicalItems hplaces h⟩
    rw [length_canonicalItems, harity, Nat.min_self]
  case struct name fields =>
    intro bytes h
    obtain ⟨values, rfl, h⟩ := writes_struct_iff.mp h
    refine writes_struct_iff.mpr ⟨_, rfl, writes_fields_of_lookup hplaces ?_ h⟩
    exact fun field hfield value hvalue => lookup_canonicalFields hnames hfield hvalue
  case enum => exact sameBytes_enum hnames hplaces
  case sizePrefixed inner width =>
    intro bytes h
    obtain ⟨front, part, hpart, hfront, rfl⟩ := writes_sizePrefixed_iff.mp h
    have hinner := hplaces (inner, value) List.mem_cons_self part hpart
    exact writes_sizePrefixed_iff.mpr ⟨front, part, hinner, hfront, rfl⟩
  case fixedSize inner size =>
    intro bytes h
    obtain ⟨hpart, hlen⟩ := writes_fixedSize_iff.mp h
    have hinner := hplaces (inner, value) List.mem_cons_self bytes hpart
    exact writes_fixedSize_iff.mpr ⟨hinner, hlen⟩
  all_goals exact fun bytes h => h

/-- **The canonical form of a value has its bytes.** -/
theorem DistinctNames.sameBytes (hnames : codec.DistinctNames) :
    ∀ value, codec.SameBytes value := by
  induction codec using induction_parts with
  | step codec ih =>
    intro value
    refine sameBytes_of_places hnames.own fun place hplace => ?_
    have hpart := fst_mem_parts hplace
    exact ih place.1 hpart (hnames.of_part hpart) place.2

end Codec

end DartClient
