import DartClient.Proofs.Wire.Rewriting

/-!
# Decoded values that cannot be encoded

Decoding takes some values that encoding refuses. Three groups of seven bits are read for a short
integer, but only sixteen bits of it are written. What a value below a size wrapper leaves of its
bytes is passed over, but nothing is put there when the value is written; where the size is stored
as a short integer, the value that is written may not fit either. These are the only values that are
refused: if a value has been decoded, it is encoded exactly if it fits at each of its places, to as
many bytes at most as were taken for it.

## Main definitions

* `Codec.Fits`: the codec itself, apart from its parts, writes the value.

## Main results

* `rewritten_number_le`: a number that is no greater than one that was read is written.
* `Codec.fits_of_writes`: what is written fits everywhere.
* `Codec.encode_ok_iff_fits`: what is decoded is encoded exactly if it fits.
-/

namespace DartClient

open Idl (NumberFormat)
open Step

/-! ## Smaller numbers -/

/-- The groups of a short integer that has been read make up a number below as many groups. -/
theorem readShort_eq_ok : ∀ {more place base : Nat} {input rest : List UInt8} {value : Value},
    readShort place base more input = (.ok value, rest) →
      ∃ taken m, input = taken ++ rest ∧ taken ≠ [] ∧ m < Nat.pow 128 taken.length ∧
        value = .unsigned (base + m * Nat.pow 128 place)
  | 0, _, _, _, _, _, h => by cases h
  | _ + 1, _, _, [], _, _, h => by cases h
  | more + 1, place, base, b :: input, rest, value, h => by
    have hb : b.toNat % 128 < 128 := Nat.mod_lt _ (by decide)
    rw [readShort_cons] at h
    split at h
    · obtain ⟨hvalue, rfl⟩ := Prod.mk.inj h
      exact ⟨[b], b.toNat % 128, rfl, List.cons_ne_nil b [], hb, (Except.ok.inj hvalue).symm⟩
    · obtain ⟨taken, m, rfl, -, hm, rfl⟩ := readShort_eq_ok h
      refine ⟨b :: taken, b.toNat % 128 + 128 * m, rfl, List.cons_ne_nil b taken, ?_, ?_⟩
      · rw [List.length_cons, show Nat.pow 128 (taken.length + 1) = 128 * Nat.pow 128 taken.length
          from Nat.pow_succ']
        omega
      · rw [show Nat.pow 128 (place + 1) = 128 * Nat.pow 128 place from Nat.pow_succ']
        congr 1
        rw [Nat.add_mul, Nat.add_assoc, Nat.mul_left_comm, Nat.mul_assoc]

variable {format : NumberFormat} {value : Value} {m n : Nat}

theorem exists_writes_of_unsigned {width : Nat} {bytes : List UInt8}
    (hformat : ∀ value, writeNumber format value = writeUnsigned format width value) (hle : m ≤ n)
    (h : Writes (writeNumber format (.unsigned n)) bytes) :
    ∃ written, Writes (writeNumber format (.unsigned m)) written := by
  rw [hformat] at h ⊢
  obtain ⟨k, hk, hlt, -⟩ := writes_unsigned_iff.mp h
  obtain rfl := Option.some.inj hk
  exact ⟨_, writes_unsigned_iff.mpr ⟨m, rfl, Nat.lt_of_le_of_lt hle hlt, rfl⟩⟩

theorem exists_writes_of_signed {width : Nat} {bytes : List UInt8}
    (hformat : ∀ value, writeNumber format value = writeSigned format width value) (hle : m ≤ n)
    (h : Writes (writeNumber format (.unsigned n)) bytes) :
    ∃ written, Writes (writeNumber format (.unsigned m)) written := by
  rw [writes_unsigned_iff_signed, hformat] at h
  obtain ⟨i, hi, -, hhigh, -⟩ := writes_signed_iff.mp h
  obtain rfl := Option.some.inj hi
  have hlow : ∀ half : Nat, -(half : Int) ≤ (m : Int) := by omega
  refine ⟨littleEndian width (twosComplement width m), ?_⟩
  rw [writes_unsigned_iff_signed, hformat]
  exact writes_signed_iff.mpr
    ⟨m, rfl, hlow _, Int.lt_of_le_of_lt (Int.ofNat_le.mpr hle) hhigh, rfl⟩

/-- A smaller number is written where a number is, to as many bytes unless it is short. -/
theorem exists_writes_of_le (hle : m ≤ n) (hformat : format ≠ .shortU16) {bytes : List UInt8}
    (h : Writes (writeNumber format (.unsigned n)) bytes) :
    ∃ written, Writes (writeNumber format (.unsigned m)) written ∧
      written.length = bytes.length := by
  have hwritten : ∃ written, Writes (writeNumber format (.unsigned m)) written := by
    cases format
    case u8 | u16 | u32 | u64 | u128 => exact exists_writes_of_unsigned (fun _ => rfl) hle h
    case i8 | i16 | i32 | i64 | i128 => exact exists_writes_of_signed (fun _ => rfl) hle h
    case f32 | f64 => exact absurd h (not_writes_floatSize rfl)
    case shortU16 => exact absurd rfl hformat
  -- All numbers of a format have its width.
  obtain ⟨written, hwritten⟩ := hwritten
  obtain ⟨width, hwidth⟩ : ∃ width, format.byteWidth? = some width := by
    cases format
    case shortU16 => exact absurd rfl hformat
    all_goals exact ⟨_, rfl⟩
  have hmeasures := Codec.Measures.number_of_byteWidth? sizeOrder_eq hwidth
  refine ⟨written, hwritten, ?_⟩
  rw [hmeasures.writes _ written hwritten, hmeasures.writes _ bytes h]

/-- Bytes that are written are at most as many as bytes that were read. -/
abbrev NoLonger (written taken : List UInt8) : Prop := written.length ≤ taken.length

/-- **A number that is no greater than one that was read** is written, and takes no more bytes; a
short integer has to keep below its limit. -/
theorem rewritten_number_le {input rest : List UInt8} (hle : m ≤ n)
    (hshort : format = .shortU16 → m < Nat.pow 2 16) (hvalue : value.unsigned? = some n)
    (h : readNumber format input = (.ok value, rest)) :
    Rewritten NoLonger (writeNumber format (.unsigned m)) input rest := by
  by_cases hformat : format = .shortU16
  · subst hformat
    obtain ⟨taken, k, rfl, htaken, hk, rfl⟩ := readShort_eq_ok h
    obtain rfl : k = n := by simpa [Value.unsigned?] using hvalue
    have hwrites : Writes (writeShort (.unsigned m)) (shortBytes m) :=
      writes_short_iff.mpr ⟨m, rfl, hshort rfl, rfl⟩
    refine ⟨taken, shortBytes m, rfl, hwrites, ?_⟩
    obtain ⟨more, hmore⟩ := Nat.exists_eq_succ_of_ne_zero (mt List.length_eq_zero_iff.mp htaken)
    show (shortBytes m).length ≤ taken.length
    rw [hmore] at hk ⊢
    exact Codec.Measures.length_shortBytes_le (Nat.lt_of_le_of_lt hle hk)
  · obtain ⟨taken, bytes, rfl, hbytes, rfl⟩ :=
      sizeRewrites_of_ne_short byteOrder_eq hformat n value hvalue input rest h
    obtain ⟨written, hwritten, hlength⟩ := exists_writes_of_le hle hformat hbytes
    exact ⟨bytes, written, rfl, hwritten, Nat.le_of_eq hlength⟩

namespace Codec

variable {codec : Codec}

/-- The codec itself, apart from its parts, writes the value: a short integer that it stores is below
its limit, and the bytes of a value below a size wrapper are as many as it says. -/
structure Fits (codec : Codec) (value : Value) : Prop where
  /-- The number that is stored on the codec's own account. -/
  stored : ∀ n, codec.stored? value = some (.shortU16, n) → n < Nat.pow 2 16
  /-- The number of bytes in front of a value. -/
  sizePrefixed : ∀ inner, codec = .sizePrefixed inner .shortU16 →
    ∀ bytes, inner.encode value = .ok bytes → bytes.length < Nat.pow 2 16
  /-- The fixed number of bytes of a value. -/
  fixedSize : ∀ inner size, codec = .fixedSize inner size →
    ∀ bytes, inner.encode value = .ok bytes → bytes.length = size

/-! ## What fits is written -/

theorem rewrites_sizePrefixed {inner : Codec} {width : NumberFormat}
    (hfits : (Codec.sizePrefixed inner width).Fits value)
    (h : inner.Rewrites NoLonger value) :
    (Codec.sizePrefixed inner width).Rewrites NoLonger value := by
  intro input rest hread
  rw [read_sizePrefixed] at hread
  obtain ⟨size, mid, hsize, hpart⟩ := bind_eq_ok_iff.mp hread
  obtain ⟨part, left, htake, hwithin⟩ := bind_eq_ok_iff.mp hpart
  obtain ⟨rfl, rfl⟩ := take_eq_ok_iff.mp htake
  obtain ⟨hvalue, rfl⟩ := Prod.mk.inj hwithin
  obtain ⟨taken, bytes, htaken, hbytes, hlength⟩ := h part (inner.read part).2 (Prod.ext hvalue rfl)
  have hle : bytes.length ≤ part.length := by
    have hsplit := congrArg List.length htaken
    rw [List.length_append] at hsplit
    exact Nat.le_trans hlength (by omega)
  have hshort : width = .shortU16 → bytes.length < Nat.pow 2 16 := by
    rintro rfl
    exact hfits.sizePrefixed inner rfl bytes (encode_eq_ok_iff.mpr hbytes)
  -- The size was read for the whole part, of which the bytes are not more.
  obtain ⟨number, last, hnumber, hfilter⟩ := bind_eq_ok_iff.mp hsize
  have hsome : number.unsigned? = some part.length ∧ part ++ left = last := by
    cases hunsigned : number.unsigned?.filter (· < sizeLimit) with
    | none =>
      rw [hunsigned] at hfilter
      cases hfilter
    | some size =>
      rw [hunsigned] at hfilter
      obtain ⟨hsize, rfl⟩ := Prod.mk.inj hfilter
      obtain rfl := Except.ok.inj hsize
      exact ⟨(Option.filter_eq_some_iff.mp hunsigned).1, rfl⟩
  obtain ⟨hunsigned, rfl⟩ := hsome
  obtain ⟨front, written, rfl, hwritten, hfront⟩ := rewritten_number_le hle hshort hunsigned hnumber
  refine ⟨front ++ part, written ++ bytes, by rw [List.append_assoc], ?_, ?_⟩
  · exact writes_sizePrefixed_iff.mpr ⟨written, bytes, hbytes, hwritten, rfl⟩
  · exact byteOrder_length_le.append hfront hle

theorem rewrites_fixedSize {inner : Codec} {size : Nat}
    (hfits : (Codec.fixedSize inner size).Fits value) (h : inner.Rewrites NoLonger value) :
    (Codec.fixedSize inner size).Rewrites NoLonger value := by
  intro input rest hread
  rw [read_fixedSize] at hread
  obtain ⟨part, left, htake, hwithin⟩ := bind_eq_ok_iff.mp hread
  obtain ⟨rfl, rfl⟩ := take_eq_ok_iff.mp htake
  obtain ⟨hvalue, rfl⟩ := Prod.mk.inj hwithin
  obtain ⟨taken, bytes, -, hbytes, -⟩ := h part (inner.read part).2 (Prod.ext hvalue rfl)
  have hlength := hfits.fixedSize inner part.length rfl bytes (encode_eq_ok_iff.mpr hbytes)
  exact ⟨part, bytes, rfl, writes_fixedSize_iff.mpr ⟨hbytes, hlength⟩, Nat.le_of_eq hlength⟩

/-- What has been read is written again if it fits everywhere. -/
theorem rewrites_of_fits (hnames : codec.DistinctNames) :
    ∀ value, Everywhere Fits codec value → codec.Rewrites NoLonger value := by
  induction codec using induction_parts with
  | step codec ih =>
  intro value hfits
  have hplaces : ∀ place ∈ codec.places value, place.1.Rewrites NoLonger place.2 := by
    intro place hplace
    have hpart := fst_mem_parts hplace
    exact ih place.1 hpart (hnames.of_part hpart) place.2 (hfits.at_place hplace)
  have hplain : codec.isWrapper = false → codec.Rewrites NoLonger value := by
    intro hwrapper
    refine rewrites_of_places byteOrder_length_le hwrapper hnames.own ?_ ?_ hplaces
    · intro format n hstored number hnumber input rest hread
      refine rewritten_number_le (Nat.le_refl n) ?_ hnumber hread
      rintro rfl
      exact hfits.here.stored n hstored
    · exact fun _ _ _ gap gap' hlength => Nat.le_of_eq hlength
  cases codec
  case sizePrefixed inner width =>
    exact rewrites_sizePrefixed hfits.here (hplaces (inner, value) List.mem_cons_self)
  case fixedSize inner size =>
    exact rewrites_fixedSize hfits.here (hplaces (inner, value) List.mem_cons_self)
  all_goals exact hplain rfl

/-! ## What is written fits -/

/-- The codec writes the value. -/
def Accepts (codec : Codec) (value : Value) : Prop := ∃ bytes, Writes (codec.write value) bytes

theorem exists_writes_of_mem {α : Type} {write : α → Step Unit} (happ : ∀ a, AppendsOnly (write a)) :
    ∀ {items : List α} {bytes : List UInt8}, Writes (each write items) bytes →
      ∀ a ∈ items, ∃ part, Writes (write a) part
  | [], _, _, _, ha => by cases ha
  | item :: items, _, h, a, ha => by
    obtain ⟨front, back, hfront, hback, -⟩ := (writes_each_cons_iff happ).mp h
    rcases List.mem_cons.mp ha with rfl | ha
    · exact ⟨front, hfront⟩
    · exact exists_writes_of_mem happ hback a ha

theorem accepts_of_items : ∀ {items : List Codec} {values : List Value} {bytes : List UInt8},
    Writes (writeItems items values) bytes → ∀ place ∈ items.zip values, place.1.Accepts place.2
  | [], _, _, _, _, hplace => by cases hplace
  | _ :: _, [], _, _, _, hplace => by cases hplace
  | item :: items, value :: values, _, h, place, hplace => by
    obtain ⟨front, back, hfront, hback, -⟩ := writes_items_cons_iff.mp h
    rw [List.zip_cons_cons] at hplace
    rcases List.mem_cons.mp hplace with rfl | hplace
    · exact ⟨front, hfront⟩
    · exact accepts_of_items hback place hplace

theorem accepts_of_fields {values : List (String × Value)} :
    ∀ {fields : List FieldCodec} {bytes : List UInt8}, Writes (writeFields fields values) bytes →
      ∀ place ∈ placesOfFields fields values, place.1.Accepts place.2
  | [], _, _, _, hplace => by cases hplace
  | ⟨name, codec⟩ :: fields, _, h, place, hplace => by
    obtain ⟨value, hvalue, front, back, hfront, hback, -⟩ := writes_fields_cons_iff.mp h
    -- The field has a value, which is the first place.
    have hcons : placesOfFields (⟨name, codec⟩ :: fields) values =
        (codec, value) :: placesOfFields fields values := by
      simp [placesOfFields, hvalue]
    rw [hcons] at hplace
    rcases List.mem_cons.mp hplace with rfl | hplace
    · exact ⟨front, hfront⟩
    · exact accepts_of_fields hback place hplace

theorem accepts_of_list {item : Codec} {count : Length} (h : (Codec.list item count).Accepts value) :
    ∀ place ∈ (Codec.list item count).places value, place.1.Accepts place.2 := by
  intro place hplace
  obtain ⟨bytes, hbytes⟩ := h
  obtain ⟨items, front, back, rfl, -, hback, -⟩ := writes_list_iff.mp hbytes
  obtain ⟨a, ha, rfl⟩ := List.mem_map.mp hplace
  exact exists_writes_of_mem item.write_appendsOnly hback a ha

/-- What is written is written at each of its places. -/
theorem accepts_of_mem_places (hnames : codec.OwnNamesDistinct) (h : codec.Accepts value) :
    ∀ place ∈ codec.places value, place.1.Accepts place.2 := by
  intro place hplace
  -- What writing a value comes to tells what has been written for each of its parts.
  cases codec
  case option item flag isFixed =>
    obtain ⟨bytes, hbytes⟩ := h
    rcases writes_option_iff.mp hbytes with ⟨inner, rfl, front, back, -, hback, -⟩ | ⟨rfl, -⟩
    · obtain rfl := List.mem_singleton.mp hplace
      exact ⟨back, hback⟩
    · cases hplace
  case list => exact accepts_of_list h place hplace
  case set item count =>
    rw [places_set] at hplace
    exact accepts_of_list (h.imp fun bytes => writes_set_iff.mp) place hplace
  case typedArray item count =>
    rw [places_typedArray] at hplace
    exact accepts_of_list (h.imp fun bytes => writes_typedArray_iff.mp) place hplace
  case map key val count =>
    obtain ⟨bytes, hbytes⟩ := h
    obtain ⟨entries, front, back, rfl, -, hback, -⟩ := writes_map_iff.mp hbytes
    obtain ⟨entry, hentry, hmem⟩ := List.mem_flatMap.mp hplace
    obtain ⟨part, hpart⟩ := exists_writes_of_mem (key.writeEntry_appendsOnly val) hback entry hentry
    obtain ⟨kpart, vpart, hk, hv, -⟩ := writes_entry_iff.mp hpart
    simp only [List.mem_cons, List.not_mem_nil, or_false] at hmem
    rcases hmem with rfl | rfl
    · exact ⟨kpart, hk⟩
    · exact ⟨vpart, hv⟩
  case tuple items =>
    obtain ⟨bytes, hbytes⟩ := h
    obtain ⟨values, rfl, -, hitems⟩ := writes_tuple_iff.mp hbytes
    exact accepts_of_items hitems place hplace
  case struct name fields =>
    obtain ⟨bytes, hbytes⟩ := h
    obtain ⟨values, rfl, hfields⟩ := writes_struct_iff.mp hbytes
    exact accepts_of_fields hfields place hplace
  case enum name size variants =>
    obtain ⟨bytes, hbytes⟩ := h
    obtain ⟨index, values, rfl, hvariant⟩ := writes_enum_iff.mp hbytes
    obtain ⟨variant, hget, harity, front, back, -, hback, -⟩ := writes_variant_iff.mp hvariant
    have hown := hnames variant (List.mem_of_getElem? hget)
    rw [places_enum hget] at hplace
    rw [Payload.write_eq hown harity] at hback
    exact accepts_of_items hback place hplace
  case sizePrefixed inner width =>
    obtain ⟨bytes, hbytes⟩ := h
    obtain ⟨front, part, hpart, -⟩ := writes_sizePrefixed_iff.mp hbytes
    obtain rfl := List.mem_singleton.mp hplace
    exact ⟨part, hpart⟩
  case fixedSize inner size =>
    obtain ⟨bytes, hbytes⟩ := h
    obtain rfl := List.mem_singleton.mp hplace
    exact ⟨bytes, (writes_fixedSize_iff.mp hbytes).1⟩
  all_goals cases hplace

theorem exists_writes_count {item : Codec} {count : Length} {n : Nat}
    (h : (Codec.list item count).Accepts value)
    (hstored : (Codec.list item count).stored? value = some (format, n)) :
    ∃ front, Writes (writeNumber format (.unsigned n)) front := by
  obtain ⟨bytes, hbytes⟩ := h
  obtain ⟨items, front, back, rfl, hfront, -⟩ := writes_list_iff.mp hbytes
  cases count <;> cases hstored
  exact ⟨front, hfront⟩

/-- The number that is stored for a value is written. -/
theorem exists_writes_stored {n : Nat} (h : codec.Accepts value)
    (hstored : codec.stored? value = some (format, n)) :
    ∃ front, Writes (writeNumber format (.unsigned n)) front := by
  -- Where a number is stored for a value, it is written in front of all else.
  cases codec
  case number =>
    obtain ⟨bytes, hbytes⟩ := h
    obtain ⟨m, hm, hpair⟩ := Option.map_eq_some_iff.mp hstored
    obtain ⟨rfl, rfl⟩ := Prod.mk.inj hpair
    exact ⟨bytes, (writes_number_congr (integer?_of_unsigned? hm) rfl).mp hbytes⟩
  case boolean =>
    obtain ⟨bytes, hbytes⟩ := h
    obtain ⟨flag, rfl, hflag⟩ := writes_boolean_iff.mp hbytes
    cases hstored
    exact ⟨bytes, hflag⟩
  case string length =>
    obtain ⟨bytes, hbytes⟩ := h
    obtain ⟨text, rfl, htext⟩ := writes_string_iff.mp hbytes
    cases length <;> cases hstored
    obtain ⟨front, hfront, -⟩ := writes_prefixedBytes_iff.mp htext
    exact ⟨front, hfront⟩
  case bytes length =>
    obtain ⟨bytes, hbytes⟩ := h
    obtain ⟨data, rfl, hdata⟩ := writes_bytes_iff.mp hbytes
    cases length <;> cases hstored
    obtain ⟨front, hfront, -⟩ := writes_prefixedBytes_iff.mp hdata
    exact ⟨front, hfront⟩
  case option =>
    obtain ⟨bytes, hbytes⟩ := h
    rcases writes_option_iff.mp hbytes with ⟨inner, rfl, front, back, hfront, -⟩ |
      ⟨rfl, front, size, hfront, -⟩
    · cases hstored
      exact ⟨front, hfront⟩
    · cases hstored
      exact ⟨front, hfront⟩
  case list => exact exists_writes_count h hstored
  case set item count =>
    refine exists_writes_count (h.imp fun bytes => writes_set_iff.mp) ?_
    cases count <;> cases value <;> cases hstored
    rfl
  case map key val count =>
    obtain ⟨bytes, hbytes⟩ := h
    obtain ⟨entries, front, back, rfl, hfront, -⟩ := writes_map_iff.mp hbytes
    cases count <;> cases hstored
    exact ⟨front, hfront⟩
  case enum =>
    obtain ⟨bytes, hbytes⟩ := h
    obtain ⟨index, values, rfl, hvariant⟩ := writes_enum_iff.mp hbytes
    obtain ⟨variant, -, -, front, back, hfront, -⟩ := writes_variant_iff.mp hvariant
    cases hstored
    exact ⟨front, hfront⟩
  all_goals cases hstored

theorem lt_of_writes_short {n : Nat} {bytes : List UInt8}
    (h : Writes (writeNumber .shortU16 (.unsigned n)) bytes) : n < Nat.pow 2 16 := by
  rw [writeNumber] at h
  obtain ⟨m, hm, hlt, -⟩ := writes_short_iff.mp h
  obtain rfl := Option.some.inj hm
  exact hlt

/-- **What is written fits.** -/
theorem Accepts.fits (h : codec.Accepts value) : codec.Fits value where
  stored n hstored := by
    obtain ⟨front, hfront⟩ := exists_writes_stored h hstored
    exact lt_of_writes_short hfront
  sizePrefixed := by
    rintro inner rfl bytes hbytes
    obtain ⟨written, hwritten⟩ := h
    obtain ⟨front, part, hpart, hfront, -⟩ := writes_sizePrefixed_iff.mp hwritten
    obtain rfl := hpart.unique (encode_eq_ok_iff.mp hbytes)
    exact lt_of_writes_short hfront
  fixedSize := by
    rintro inner size rfl bytes hbytes
    obtain ⟨written, hwritten⟩ := h
    obtain ⟨hpart, hlength⟩ := writes_fixedSize_iff.mp hwritten
    obtain rfl := hpart.unique (encode_eq_ok_iff.mp hbytes)
    exact hlength

theorem everywhere_fits_of_accepts (hnames : codec.DistinctNames) :
    ∀ value, codec.Accepts value → Everywhere Fits codec value := by
  induction codec using induction_parts with
  | step codec ih =>
  intro value h
  refine .intro h.fits fun place hplace => ?_
  have hpart := fst_mem_parts hplace
  exact ih place.1 hpart (hnames.of_part hpart) place.2
    (accepts_of_mem_places hnames.own h place hplace)

/-- **What is decoded is encoded exactly if it fits** at each of its places, provided that fields have
distinct names. It is then encoded to as many bytes at most as were taken for it. -/
theorem encode_ok_iff_fits (hnames : codec.DistinctNames) {input rest : List UInt8}
    (hread : codec.read input = (.ok value, rest)) :
    ((∃ bytes, codec.encode value = .ok bytes) ↔ Everywhere Fits codec value) ∧
      ∀ bytes, codec.encode value = .ok bytes → bytes.length + rest.length ≤ input.length := by
  have hrewritten : Everywhere Fits codec value →
      ∃ taken bytes, input = taken ++ rest ∧ codec.encode value = .ok bytes ∧
        bytes.length ≤ taken.length := by
    intro hfits
    obtain ⟨taken, bytes, hinput, hbytes, hle⟩ :=
      rewrites_of_fits hnames value hfits input rest hread
    exact ⟨taken, bytes, hinput, encode_eq_ok_iff.mpr hbytes, hle⟩
  have hfits : ∀ bytes, codec.encode value = .ok bytes → Everywhere Fits codec value :=
    fun bytes hbytes => everywhere_fits_of_accepts hnames value ⟨bytes, encode_eq_ok_iff.mp hbytes⟩
  refine ⟨⟨?_, fun h => ?_⟩, fun bytes hbytes => ?_⟩
  · rintro ⟨bytes, hbytes⟩
    exact hfits bytes hbytes
  · obtain ⟨_, bytes, -, hbytes, -⟩ := hrewritten h
    exact ⟨bytes, hbytes⟩
  · obtain ⟨taken, written, rfl, hwritten, hle⟩ := hrewritten (hfits bytes hbytes)
    obtain rfl := Except.ok.inj (hwritten.symm.trans hbytes)
    rw [List.length_append]
    exact Nat.add_le_add_right hle rest.length

/-- Three bytes that hold the number five in two groups and a byte that is passed over: it fits, and
takes one byte where it is written. -/
theorem encode_ok_iff_fits_five :
    let codec : Codec := .sizePrefixed (.number .shortU16) .u8
    codec.read [3, 133, 0, 9] = (.ok (.unsigned 5), []) ∧
      codec.encode (.unsigned 5) = .ok [1, 5] ∧ Everywhere Fits codec (.unsigned 5) := by
  intro codec
  have hread : codec.read [3, 133, 0, 9] = (.ok (.unsigned 5), []) := rfl
  have hnames : codec.DistinctNames := by
    refine .intro trivial fun part hpart => ?_
    obtain rfl := List.mem_singleton.mp hpart
    exact .intro trivial (by simp [parts])
  have hshort : shortBytes 5 = [5] := by
    rw [shortBytes]
    rfl
  have hfive : Writes (writeShort (.unsigned 5)) [5] :=
    writes_short_iff.mpr ⟨5, rfl, by decide, hshort.symm⟩
  have hencode : codec.encode (.unsigned 5) = .ok [1, 5] :=
    encode_eq_ok_iff.mpr (writes_sizePrefixed_iff.mpr ⟨[1], [5], hfive, fun _ => rfl, rfl⟩)
  exact ⟨hread, hencode, (encode_ok_iff_fits hnames hread).1.mp ⟨_, hencode⟩⟩

/-- Three full groups are read as a short integer that is not written. -/
theorem read_ok_encode_error :
    (Codec.number .shortU16).read [255, 255, 127] = (.ok (.unsigned 2097151), []) ∧
      (Codec.number .shortU16).encode (.unsigned 2097151) = .error .shortOutOfRange :=
  ⟨rfl, rfl⟩

end Codec

end DartClient
