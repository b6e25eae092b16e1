import DartClient.Proofs.Text.Utf8
import DartClient.Proofs.Wire.Reencoding

/-!
# Decoding undoes encoding

What is written with a closed codec is read back in its canonical form, and the bytes behind it are
left. What is written with a codec that takes the rest is read back where the input ends with it.
The canonical form has the same bytes.

A codec is read back if the parts of the value are read back at their places. This is proved for
each kind of codec, and carried to the whole by induction on why the codec is closed.

## Main definitions

* `Step.ReadsBack`: a reader undoes a writer.

## Main results

* `Codec.readsBack_of_places`: a value is read back if its parts are.
* `Codec.Closed.readsBack`: a value is read back with a closed codec.
* `Codec.decode_encode`: decoding undoes encoding.
-/

namespace DartClient

open Step

namespace Step

variable {α β : Type}

/-- The reader gives `b` for the bytes that the writer writes, and leaves what follows them. -/
def ReadsBack (write : Step Unit) (read : Step β) (b : β) : Prop :=
  ∀ bytes, bytes.length < sizeLimit → Writes write bytes → Reads read bytes b

theorem readsBack_each {write : α → Step Unit} {read : Step β} {f : α → β}
    (happ : ∀ a, AppendsOnly (write a)) : ∀ {items : List α},
    (∀ a ∈ items, ReadsBack (write a) read (f a)) →
      ReadsBack (each write items) (repeated read items.length) (items.map f)
  | [], _ => by
    intro bytes _ h
    obtain rfl := writes_done_iff.mp h
    exact reads_repeated_nil read
  | a :: items, hitems => by
    intro bytes hlen h
    obtain ⟨front, back, hfront, hback, rfl⟩ := (writes_each_cons_iff happ).mp h
    rw [List.length_append] at hlen
    have hhead := hitems a List.mem_cons_self front (by omega) hfront
    have htail := readsBack_each happ (fun a ha => hitems a (List.mem_cons_of_mem _ ha)) back
      (by omega) hback
    rw [← List.length_map (f := f)] at htail
    have hcons := reads_repeated_cons hhead htail
    rwa [List.length_cons, List.length_map] at hcons

/-- Items that take bytes are read back up to the end of the input. -/
theorem untilEmpty_each {write : α → Step Unit} {read : Step β} {f : α → β}
    (happ : ∀ a, AppendsOnly (write a)) (hne : ∀ a, ¬ Writes (write a) []) :
    ∀ {items : List α} {bytes : List UInt8}, (∀ a ∈ items, ReadsBack (write a) read (f a)) →
      bytes.length < sizeLimit → Writes (each write items) bytes →
        untilEmpty read bytes = (.ok (items.map f), [])
  | [], bytes, _, _, h => by
    obtain rfl := writes_done_iff.mp h
    exact untilEmpty_nil read
  | a :: items, bytes, hitems, hlen, h => by
    obtain ⟨front, back, hfront, hback, rfl⟩ := (writes_each_cons_iff happ).mp h
    rw [List.length_append] at hlen
    have hhead := hitems a List.mem_cons_self front (by omega) hfront
    have htail := untilEmpty_each happ hne (fun a ha => hitems a (List.mem_cons_of_mem _ ha))
      (by omega) hback
    -- The reader goes on only if the item has taken bytes.
    refine untilEmpty_append hhead ?_ htail
    rintro rfl
    exact hne a hfront

end Step

/-! ## Counts and bytes -/

theorem reads_list {α : Type} {read : Step α} {count : Length} {place : String} {n : Nat}
    {front back : List UInt8} {result : List α} (hcount : count ≠ .remainder)
    (hn : n < sizeLimit) (hfront : Writes (writeCount count n place) front)
    (hback : Reads (repeated read n) back result) :
    Reads (readList count read) (front ++ back) result := by
  cases count with
  | prefixed format => exact (reads_size hn hfront).bind hback
  | fixed expected =>
    obtain ⟨rfl, rfl⟩ := writes_fixedCount_iff.mp hfront
    exact hback
  | remainder => exact absurd rfl hcount

theorem reads_bytes {length : Length} {place place' : String} {data bytes : List UInt8}
    (hlength : length ≠ .remainder) (hlen : bytes.length < sizeLimit)
    (h : Writes (writeBytes length data place) bytes) :
    Reads (readBytes length place') bytes data := by
  cases length with
  | prefixed format =>
    obtain ⟨front, hfront, rfl⟩ := writes_prefixedBytes_iff.mp h
    rw [List.length_append] at hlen
    exact (reads_size (by omega) hfront).bind (reads_take data place')
  | fixed size =>
    obtain ⟨rfl, rfl⟩ := writes_fixedBytes_iff.mp h
    exact reads_take bytes place'
  | remainder => exact absurd rfl hlength

/-! ## Parts in a row -/

/-- A value is read back in its canonical form. -/
def Codec.ReadsBack (codec : Codec) (value : Value) : Prop :=
  Step.ReadsBack (codec.write value) codec.read (codec.canonical value)

theorem readsBack_items : ∀ {items : List Codec} {values : List Value},
    (∀ place ∈ items.zip values, place.1.ReadsBack place.2) → items.length = values.length →
      Step.ReadsBack (writeItems items values) (readItems items)
        (Codec.canonicalItems items values)
  | [], [], _, _ => by
    intro bytes _ h
    obtain rfl := writes_done_iff.mp h
    exact reads_done []
  | item :: items, value :: values, hplaces, hlength => by
    intro bytes hlen h
    obtain ⟨front, back, hfront, hback, rfl⟩ := writes_items_cons_iff.mp h
    rw [List.length_append] at hlen
    rw [List.zip_cons_cons] at hplaces
    have hhead := hplaces (item, value) List.mem_cons_self front (by omega) hfront
    have htail := readsBack_items
      (fun place hplace => hplaces place (List.mem_cons_of_mem _ hplace))
      (Nat.succ.inj hlength) back (by omega) hback
    rw [readItems_cons]
    exact hhead.bind htail.map

theorem readsBack_fields {values : List (String × Value)} : ∀ {fields : List FieldCodec},
    (∀ place ∈ placesOfFields fields values, place.1.ReadsBack place.2) →
      Step.ReadsBack (writeFields fields values) (readFields fields)
        (Codec.canonicalFields fields values)
  | [], _ => by
    intro bytes _ h
    obtain rfl := writes_done_iff.mp h
    exact reads_done []
  | ⟨name, codec⟩ :: fields, hplaces => by
    intro bytes hlen h
    obtain ⟨value, hvalue, front, back, hfront, hback, rfl⟩ := writes_fields_cons_iff.mp h
    rw [List.length_append] at hlen
    have hcons : placesOfFields (⟨name, codec⟩ :: fields) values =
        (codec, value) :: placesOfFields fields values := by
      simp [placesOfFields, hvalue]
    rw [hcons] at hplaces
    have hhead := hplaces (codec, value) List.mem_cons_self front (by omega) hfront
    have htail := readsBack_fields
      (fun place hplace => hplaces place (List.mem_cons_of_mem _ hplace)) back (by omega) hback
    rw [readFields_cons, Codec.canonicalFields_cons hvalue]
    exact hhead.bind htail.map

/-! ## One level of a codec -/

/-- A part of known length is read back from the bytes that belong to it. -/
theorem reads_sized {inner : Codec} {part : List UInt8} {result : Value} {place : String}
    (h : (inner.read part).1 = .ok result) {size : Step Nat} {front : List UInt8}
    (hsize : Reads size front part.length) :
    Reads (do within (← take (← size) place) inner.read) (front ++ part) result :=
  hsize.bind (reads_taken place h)

namespace Codec

variable {codec : Codec} {value : Value}

/-- A key and a value are read back one after the other. -/
theorem readsBack_entry {key val : Codec} {entry : Value × Value}
    (hkey : key.ReadsBack entry.1) (hval : val.ReadsBack entry.2) :
    Step.ReadsBack (key.writeEntry val entry) (do return (← key.read, ← val.read))
      (key.canonical entry.1, val.canonical entry.2) := by
  intro bytes hlen h
  obtain ⟨front, back, hfront, hback, rfl⟩ := writes_entry_iff.mp h
  rw [List.length_append] at hlen
  exact (hkey front (by omega) hfront).bind (hval back (by omega) hback).map

/-- The parts of an entry of a map are places. -/
theorem readsBack_of_mem_entries {key val : Codec} {count : Length} {entries : List (Value × Value)}
    (hplaces : ∀ place ∈ (Codec.map key val count).places (.map entries), place.1.ReadsBack place.2)
    (entry : Value × Value) (hentry : entry ∈ entries) :
    Step.ReadsBack (key.writeEntry val entry) (do return (← key.read, ← val.read))
      (key.canonical entry.1, val.canonical entry.2) := by
  have hmem : ∀ place ∈ [(key, entry.1), (val, entry.2)], place.1.ReadsBack place.2 :=
    fun place hplace => hplaces place (List.mem_flatMap.mpr ⟨entry, hentry, hplace⟩)
  exact readsBack_entry (hmem _ List.mem_cons_self)
    (hmem _ (List.mem_cons_of_mem _ List.mem_cons_self))

theorem readsBack_boolean {format : Idl.NumberFormat} : (Codec.boolean format).ReadsBack value := by
  intro bytes _ h
  obtain ⟨flag, rfl, hflag⟩ := writes_boolean_iff.mp h
  have hread : Reads (Codec.boolean format).read (bytes ++ []) (.bool flag) := by
    rw [read_boolean]
    refine (reads_unsignedNumber hflag).bind ?_
    rw [unsigned?_canonicalNumber hflag]
    cases flag <;> exact reads_pure _
  rwa [List.append_nil] at hread

theorem readsBack_option {item : Codec} {flag : Idl.NumberFormat} {isFixed : Bool}
    (hplaces : ∀ place ∈ (Codec.option item flag isFixed).places value, place.1.ReadsBack place.2) :
    (Codec.option item flag isFixed).ReadsBack value := by
  intro bytes hlen h
  rw [read_option]
  rcases writes_option_iff.mp h with ⟨inner, rfl, front, back, hfront, hback, rfl⟩ |
    ⟨rfl, front, size, hfront, hsize, rfl⟩
  · rw [List.length_append] at hlen
    have hinner := hplaces (item, inner) List.mem_cons_self back (by omega) hback
    refine (reads_unsignedNumber hfront).bind ?_
    rw [unsigned?_canonicalNumber hfront]
    exact hinner.map
  · refine (reads_unsignedNumber hfront).bind ?_
    rw [unsigned?_canonicalNumber hfront]
    -- Behind the flag of an absent value only the gap is read.
    unfold padding? at hsize
    cases isFixed with
    | false =>
      obtain rfl : 0 = size := Option.some.inj hsize
      exact reads_pure _
    | true =>
      rw [if_pos rfl] at hsize
      have hzeros := reads_take (List.replicate size 0) "fixed option"
      rw [List.length_replicate] at hzeros
      simp only [if_true, hsize]
      exact (reads_done size).bind hzeros.map

/-- Items are read back behind their number. -/
theorem readsBack_list {item : Codec} {count : Length} (hcount : count ≠ .remainder)
    (hsize : value.extent < sizeLimit)
    (hplaces : ∀ place ∈ (Codec.list item count).places value, place.1.ReadsBack place.2) :
    (Codec.list item count).ReadsBack value := by
  intro bytes hlen h
  obtain ⟨items, front, back, rfl, hfront, hback, rfl⟩ := writes_list_iff.mp h
  rw [List.length_append] at hlen
  have hitems : Step.ReadsBack (each item.write items) (repeated item.read items.length)
      (items.map item.canonical) :=
    readsBack_each item.write_appendsOnly fun value hvalue =>
      hplaces (item, value) (List.mem_map_of_mem hvalue)
  rw [read_list]
  exact (reads_list hcount hsize hfront (hitems back (by omega) hback)).map

theorem readsBack_map {key val : Codec} {count : Length} (hcount : count ≠ .remainder)
    (hsize : value.extent < sizeLimit)
    (hplaces : ∀ place ∈ (Codec.map key val count).places value, place.1.ReadsBack place.2) :
    (Codec.map key val count).ReadsBack value := by
  intro bytes hlen h
  obtain ⟨entries, front, back, rfl, hfront, hback, rfl⟩ := writes_map_iff.mp h
  rw [List.length_append] at hlen
  have hentries := readsBack_each (key.writeEntry_appendsOnly val)
    (readsBack_of_mem_entries hplaces) back (by omega) hback
  rw [read_map]
  exact (reads_list hcount hsize hfront hentries).map

theorem readsBack_enum {name : String} {size : Idl.NumberFormat} {variants : List VariantCodec}
    (hnames : (Codec.enum name size variants).OwnNamesDistinct) (hsize : value.extent < sizeLimit)
    (hplaces : ∀ place ∈ (Codec.enum name size variants).places value,
      place.1.ReadsBack place.2) :
    (Codec.enum name size variants).ReadsBack value := by
  intro bytes hlen h
  obtain ⟨index, values, rfl, h⟩ := writes_enum_iff.mp h
  obtain ⟨variant, hvariant, harity, front, back, hfront, hback, rfl⟩ := writes_variant_iff.mp h
  have hindex : index < sizeLimit := hsize
  -- A struct payload is written by name and read by position.
  rw [Payload.write_eq (hnames variant (List.mem_of_getElem? hvariant)) harity] at hback
  rw [places_enum hvariant] at hplaces
  rw [List.length_append] at hlen
  have hlength : variant.payload.codecs.length = values.length := by
    rw [harity, variant.payload.length_codecs]
  have hpayload := readsBack_items hplaces hlength back (by omega) hback
  rw [read_enum]
  refine (reads_size hindex hfront).bind ?_
  rw [readVariant_eq hvariant, canonical_enum hvariant]
  exact hpayload.map

theorem readsBack_sizePrefixed {inner : Codec} {width : Idl.NumberFormat}
    (h : ∀ part, part.length < sizeLimit → Writes (inner.write value) part →
      (inner.read part).1 = .ok (inner.canonical value)) :
    (Codec.sizePrefixed inner width).ReadsBack value := by
  intro bytes hlen hbytes
  obtain ⟨front, part, hpart, hfront, rfl⟩ := writes_sizePrefixed_iff.mp hbytes
  rw [List.length_append] at hlen
  rw [read_sizePrefixed]
  exact reads_sized (h part (by omega) hpart) (reads_size (by omega) hfront)

theorem readsBack_fixedSize {inner : Codec} {size : Nat}
    (h : ∀ part, part.length < sizeLimit → Writes (inner.write value) part →
      (inner.read part).1 = .ok (inner.canonical value)) :
    (Codec.fixedSize inner size).ReadsBack value := by
  intro bytes hlen hbytes
  obtain ⟨hpart, rfl⟩ := writes_fixedSize_iff.mp hbytes
  rw [read_fixedSize]
  exact reads_taken "fixed size" (h bytes hlen hpart)

/-- **A value is read back if its parts are.** The codec itself must not take the rest. -/
theorem readsBack_of_places (hlength : codec.length? ≠ some .remainder)
    (hnames : codec.OwnNamesDistinct) (hsize : value.extent < sizeLimit)
    (hfloat : codec = .number .f32 → ∀ x, value = .float x → x.IsSingle)
    (hplaces : ∀ place ∈ codec.places value, place.1.ReadsBack place.2) :
    codec.ReadsBack value := by
  cases codec
  case number format =>
    exact fun bytes _ h => reads_number (fun hf => hfloat (congrArg Codec.number hf)) h
  case boolean => exact readsBack_boolean
  case string length =>
    intro bytes hlen h
    obtain ⟨text, rfl, htext⟩ := writes_string_iff.mp h
    have hread : Reads (Codec.string length).read (bytes ++ []) (.string text) := by
      rw [read_string]
      refine (reads_bytes (fun hl => hlength (congrArg some hl)) hlen htext).bind ?_
      rw [Text.Utf8.decode_of_encode]
      exact reads_pure _
    rwa [List.append_nil] at hread
  case bytes length =>
    intro bytes hlen h
    obtain ⟨data, rfl, hdata⟩ := writes_bytes_iff.mp h
    rw [read_bytes]
    exact (reads_bytes (fun hl => hlength (congrArg some hl)) hlen hdata).map
  case publicKey =>
    intro bytes _ h
    obtain ⟨address, rfl, rfl⟩ := writes_publicKey_iff.mp h
    rw [read_publicKey]
    exact (reads_takeAddress address).map
  case option => exact readsBack_option hplaces
  case list item count =>
    exact readsBack_list (fun hc => hlength (congrArg some hc)) hsize hplaces
  -- The reader of a set or a typed list is that of a list.
  case set item count =>
    intro bytes hlen h
    rw [places_set] at hplaces
    have hlist := readsBack_list (fun hc => hlength (congrArg some hc)) hsize hplaces
    have hread := hlist bytes hlen (writes_set_iff.mp h)
    cases value <;> exact hread
  case typedArray item count =>
    intro bytes hlen h
    rw [places_typedArray] at hplaces
    have hlist := readsBack_list (by simp) hsize hplaces
    have hread := hlist bytes hlen (writes_typedArray_iff.mp h)
    cases value <;> exact hread
  case map => exact readsBack_map (fun hc => hlength (congrArg some hc)) hsize hplaces
  case tuple items =>
    intro bytes hlen h
    obtain ⟨values, rfl, harity, h⟩ := writes_tuple_iff.mp h
    rw [read_tuple]
    exact (readsBack_items hplaces harity bytes hlen h).map
  case struct name fields =>
    intro bytes hlen h
    obtain ⟨values, rfl, h⟩ := writes_struct_iff.mp h
    rw [read_struct]
    exact (readsBack_fields hplaces bytes hlen h).map
  case enum => exact readsBack_enum hnames hsize hplaces
  case sizePrefixed inner width =>
    refine readsBack_sizePrefixed fun part hlen hpart => ?_
    rw [(hplaces (inner, value) List.mem_cons_self part hlen hpart).apply_all]
  case fixedSize inner size =>
    refine readsBack_fixedSize fun part hlen hpart => ?_
    rw [(hplaces (inner, value) List.mem_cons_self part hlen hpart).apply_all]
  case defined => exact fun bytes _ h => absurd h not_writes_defined
  case unknown => exact fun bytes _ h => absurd h not_writes_unknown

/-! ## Up to the end of the input -/

/-- Items that take bytes are read back where the input ends with them. -/
theorem read_rest_list {item : Codec} (hitems : (Codec.list item .remainder).ItemsTakeBytes)
    (hplaces : ∀ place ∈ (Codec.list item .remainder).places value, place.1.ReadsBack place.2)
    {bytes : List UInt8} (hlen : bytes.length < sizeLimit)
    (h : Writes ((Codec.list item .remainder).write value) bytes) :
    (Codec.list item .remainder).read bytes =
      (.ok ((Codec.list item .remainder).canonical value), []) := by
  obtain ⟨items, front, back, rfl, hfront, hback, rfl⟩ := writes_list_iff.mp h
  obtain rfl := writes_done_iff.mp hfront
  have hne : ∀ value, ¬ Writes (item.write value) [] :=
    fun value hvalue => hitems value (encode_eq_ok_iff.mpr hvalue)
  have hback' : ∀ value ∈ items, item.ReadsBack value :=
    fun value hvalue => hplaces (item, value) (List.mem_map_of_mem hvalue)
  have hread := untilEmpty_each item.write_appendsOnly hne hback' hlen hback
  rw [List.nil_append] at hread ⊢
  rw [read_list, bind_apply, readList, hread]
  rfl

/-- Entries that take bytes are read back where the input ends with them. -/
theorem read_rest_map {key val : Codec} (hitems : (Codec.map key val .remainder).ItemsTakeBytes)
    (hplaces : ∀ place ∈ (Codec.map key val .remainder).places value, place.1.ReadsBack place.2)
    {bytes : List UInt8} (hlen : bytes.length < sizeLimit)
    (h : Writes ((Codec.map key val .remainder).write value) bytes) :
    (Codec.map key val .remainder).read bytes =
      (.ok ((Codec.map key val .remainder).canonical value), []) := by
  obtain ⟨entries, front, back, rfl, hfront, hback, rfl⟩ := writes_map_iff.mp h
  obtain rfl := writes_done_iff.mp hfront
  -- An entry is empty only if both its key and its value are.
  have hne : ∀ entry, ¬ Writes (key.writeEntry val entry) [] := by
    intro entry hentry
    obtain ⟨kpart, vpart, hk, hv, happend⟩ := writes_entry_iff.mp hentry
    obtain ⟨rfl, rfl⟩ := List.append_eq_nil_iff.mp happend.symm
    exact hitems entry.1 entry.2 ⟨encode_eq_ok_iff.mpr hk, encode_eq_ok_iff.mpr hv⟩
  have hread := untilEmpty_each (key.writeEntry_appendsOnly val) hne
    (readsBack_of_mem_entries hplaces) hlen hback
  rw [List.nil_append] at hread ⊢
  rw [read_map, bind_apply, readList, hread]
  rfl

/-- **Where the input ends, a value is read back if its parts are**, also with a codec that takes
the rest. -/
theorem read_rest (hlength : codec.length? = some .remainder) (hitems : codec.ItemsTakeBytes)
    (hplaces : ∀ place ∈ codec.places value, place.1.ReadsBack place.2) {bytes : List UInt8}
    (hlen : bytes.length < sizeLimit) (h : Writes (codec.write value) bytes) :
    codec.read bytes = (.ok (codec.canonical value), []) := by
  cases codec
  case string length =>
    obtain rfl := Option.some.inj hlength
    obtain ⟨text, rfl, htext⟩ := writes_string_iff.mp h
    obtain rfl := writes_remainderBytes_iff.mp htext
    rw [read_string, bind_apply]
    simp only [readBytes, takeAll, Text.Utf8.decode_of_encode]
    rfl
  case bytes length =>
    obtain rfl := Option.some.inj hlength
    obtain ⟨data, rfl, hdata⟩ := writes_bytes_iff.mp h
    obtain rfl := writes_remainderBytes_iff.mp hdata
    rfl
  case list item count =>
    obtain rfl := Option.some.inj hlength
    exact read_rest_list hitems hplaces hlen h
  case set item count =>
    obtain rfl := Option.some.inj hlength
    rw [places_set] at hplaces
    have hread := read_rest_list hitems hplaces hlen (writes_set_iff.mp h)
    cases value <;> exact hread
  case map key val count =>
    obtain rfl := Option.some.inj hlength
    exact read_rest_map hitems hplaces hlen h
  all_goals cases hlength

/-! ## All levels -/

/-- What holds of the parts of a codec holds of the places of a value. -/
theorem readsBack_places
    (hparts : ∀ part ∈ codec.parts, ∀ {value}, part.DistinctNames → part.Sized value →
      part.FloatsExact value → part.ReadsBack value)
    (hnames : codec.DistinctNames) (hsized : codec.Sized value)
    (hfloats : codec.FloatsExact value) :
    ∀ place ∈ codec.places value, place.1.ReadsBack place.2 := by
  intro place hplace
  have hpart := fst_mem_parts hplace
  exact hparts place.1 hpart (hnames.of_part hpart) (hsized.at_place hplace)
    (hfloats.at_place hplace)

/-- **A value is read back with a closed codec.** -/
theorem Closed.readsBack (hclosed : codec.Closed) : ∀ {value}, codec.DistinctNames →
    codec.Sized value → codec.FloatsExact value → codec.ReadsBack value := by
  -- The induction is on why the codec is closed, since below a size wrapper the inner codec itself
  -- need not be.
  induction hclosed with
  | bounded hlength hparts ih =>
    intro value hnames hsized hfloats
    exact readsBack_of_places hlength hnames.own hsized.here hfloats.here
      (readsBack_places ih hnames hsized hfloats)
  | @sizePrefixed inner width hlength hparts hitems ih =>
    intro value hnames hsized hfloats
    refine readsBack_sizePrefixed fun part hlen hpart => ?_
    have hplace : (inner, value) ∈ (Codec.sizePrefixed inner width).places value :=
      List.mem_cons_self
    have hplaces := readsBack_places ih (hnames.of_part List.mem_cons_self)
      (hsized.at_place hplace) (hfloats.at_place hplace)
    rw [read_rest hlength hitems hplaces hlen hpart]
  | @fixedSize inner size hlength hparts hitems ih =>
    intro value hnames hsized hfloats
    refine readsBack_fixedSize fun part hlen hpart => ?_
    have hplace : (inner, value) ∈ (Codec.fixedSize inner size).places value :=
      List.mem_cons_self
    have hplaces := readsBack_places ih (hnames.of_part List.mem_cons_self)
      (hsized.at_place hplace) (hfloats.at_place hplace)
    rw [read_rest hlength hitems hplaces hlen hpart]

/-- **Decoding undoes encoding.** With a closed codec the canonical form of a value is read back
from its bytes, and what follows them is left; with a codec that takes the rest it is read back
where the input ends with them. In any case the canonical form has the same bytes. -/
theorem decode_encode {bytes : List UInt8} (hnames : codec.DistinctNames)
    (hsized : codec.Sized value) (hfloats : codec.FloatsExact value)
    (hlen : bytes.length < sizeLimit) (h : codec.encode value = .ok bytes) :
    (codec.Closed → ∀ rest, codec.read (bytes ++ rest) = (.ok (codec.canonical value), rest)) ∧
      (codec.TakesRest → codec.read bytes = (.ok (codec.canonical value), [])) ∧
      codec.encode (codec.canonical value) = .ok bytes := by
  have hbytes := encode_eq_ok_iff.mp h
  refine ⟨?_, ?_, encode_eq_ok_iff.mpr (hnames.sameBytes value bytes hbytes)⟩
  · intro hclosed rest
    exact hclosed.readsBack hnames hsized hfloats bytes hlen hbytes rest
  · rintro ⟨hlength, hparts, hitems⟩
    have hplaces := readsBack_places (fun part hpart => (hparts part hpart).readsBack) hnames hsized
      hfloats
    exact read_rest hlength hitems hplaces hlen hbytes

/-- A struct of a number in single precision and of a text behind the number of its bytes, and a
value with a further field. -/
theorem decode_encode_note :
    let codec : Codec := .struct "Note"
      [⟨"size", .number .f32⟩, ⟨"text", .sizePrefixed (.string .remainder) .u8⟩]
    let value : Value := .struct
      [("text", .string "a"), ("size", .float ⟨0⟩), ("extra", .bool true)]
    codec.encode value = .ok [0, 0, 0, 0, 1, 97] ∧
      ∀ rest, codec.read ([0, 0, 0, 0, 1, 97] ++ rest) =
        (.ok (.struct [("size", .float ⟨0⟩), ("text", .string "a")]), rest) := by
  intro codec value
  have hclosed : codec.Closed := by
    refine .bounded (by simp [codec, length?]) fun part hpart => ?_
    simp only [codec, parts, List.map_cons, List.map_nil, List.mem_cons, List.not_mem_nil,
      or_false] at hpart
    rcases hpart with rfl | rfl
    · exact .bounded (by simp [length?]) (by simp [parts])
    · exact .sizePrefixed rfl (by simp [parts]) trivial
  have hnames : codec.DistinctNames := by
    refine .intro (by simp [codec, OwnNamesDistinct]) fun part hpart => ?_
    simp only [codec, parts, List.map_cons, List.map_nil, List.mem_cons, List.not_mem_nil,
      or_false] at hpart
    rcases hpart with rfl | rfl
    · exact .intro trivial (by simp [parts])
    · refine .intro trivial fun part hpart => ?_
      obtain rfl := List.mem_singleton.mp hpart
      exact .intro trivial (by simp [parts])
  -- The value has two parts, and the second one has a part again.
  have hplaces : codec.places value = [(.number .f32, .float ⟨0⟩),
      (.sizePrefixed (.string .remainder) .u8, .string "a")] := rfl
  have heverywhere : ∀ {P : Codec → Value → Prop}, P codec value → P (.number .f32) (.float ⟨0⟩) →
      P (.sizePrefixed (.string .remainder) .u8) (.string "a") →
      P (.string .remainder) (.string "a") → Everywhere P codec value := by
    intro P h hsize htext hrest
    refine .intro h fun place hplace => ?_
    simp only [hplaces, List.mem_cons, List.not_mem_nil, or_false] at hplace
    rcases hplace with rfl | rfl
    · exact .intro hsize (by simp [places])
    · refine .intro htext fun place hplace => ?_
      obtain rfl := List.mem_singleton.mp hplace
      exact .intro hrest (by simp [places])
  have hsized : codec.Sized value := heverywhere (by decide) (by decide) (by decide) (by decide)
  have hzero : (⟨0⟩ : Number.Double).IsSingle := ⟨0, by decide, by decide, by decide⟩
  have hfloats : codec.FloatsExact value := by
    refine heverywhere ?_ ?_ ?_ ?_
    · simp [codec]
    · rintro - x ⟨⟩
      exact hzero
    · rintro ⟨⟩
    · rintro ⟨⟩
  have hbytes : codec.encode value = .ok [0, 0, 0, 0, 1, 97] := rfl
  exact ⟨hbytes, (decode_encode hnames hsized hfloats (by decide) hbytes).1 hclosed⟩

end Codec

end DartClient
