import DartClient.Proofs.Text.Utf8
import DartClient.Proofs.Wire.Canonical
import DartClient.Proofs.Wire.Leading
import DartClient.Proofs.Wire.Measure

/-!
# What is read can be written again

What has been read is written to bytes that compare with the bytes it was read from: they may have
to be the same, or only as many at most. Such a comparison is kept where bytes follow each other,
and nothing else about it matters here. Numbers of fixed width, texts and addresses are written
exactly as they were read, so everything depends on the numbers that a codec stores on its own
account, such as lengths and flags, and on the gap of an absent value.

Size wrappers are left out, since what they leave of their bytes is passed over.

## Main definitions

* `ByteOrder`: comparisons of byte strings.
* `Step.Rewritten`, `Step.Rewrites`: the bytes between two inputs, and a value whose bytes they are.
* `Codec.stored?`: the number that a codec stores for a value.

## Main results

* `rewrites_number`: a number of fixed width has no other bytes.
* `Codec.rewrites_of_places`: a value is written again if its parts are.
-/

namespace DartClient

open Idl (NumberFormat)
open Step

/-- A comparison of the bytes that are written with the bytes that were read. -/
structure ByteOrder (R : List UInt8 → List UInt8 → Prop) : Prop where
  /-- Bytes compare with themselves. -/
  refl : ∀ bytes, R bytes bytes
  /-- Bytes that compare part by part compare together. -/
  append : ∀ {front front' back back'}, R front front' → R back back' →
    R (front ++ back) (front' ++ back')

theorem byteOrder_eq : ByteOrder (· = ·) where
  refl _ := rfl
  append := by
    rintro front front' back back' rfl rfl
    rfl

theorem byteOrder_length_le : ByteOrder fun written taken => written.length ≤ taken.length where
  refl bytes := Nat.le_refl bytes.length
  append hfront hback := by
    rw [List.length_append, List.length_append]
    exact Nat.add_le_add hfront hback

/-! ## Readers and writers -/

namespace Step

variable {α β : Type} {R : List UInt8 → List UInt8 → Prop} {read : Step α} {write next : Step Unit}
  {input mid rest : List UInt8}

/-- The bytes between the input and the rest compare with those of the writer. -/
def Rewritten (R : List UInt8 → List UInt8 → Prop) (write : Step Unit)
    (input rest : List UInt8) : Prop :=
  ∃ taken bytes, input = taken ++ rest ∧ Writes write bytes ∧ R bytes taken

/-- Where the reader gives the value, the writer writes bytes that compare with the bytes read. -/
def Rewrites (R : List UInt8 → List UInt8 → Prop) (read : Step α) (write : Step Unit) (a : α) :
    Prop :=
  ∀ input rest, read input = (.ok a, rest) → Rewritten R write input rest

theorem Rewritten.of_writes {write' : Step Unit} (h : Rewritten R write input rest)
    (hwrites : ∀ bytes, Writes write bytes → Writes write' bytes) :
    Rewritten R write' input rest := by
  obtain ⟨taken, bytes, hinput, hbytes, hcompare⟩ := h
  exact ⟨taken, bytes, hinput, hwrites bytes hbytes, hcompare⟩

theorem Rewritten.andThen (hR : ByteOrder R) (hwrite : AppendsOnly write)
    (hnext : AppendsOnly next) (hfront : Rewritten R write input mid)
    (hback : Rewritten R next mid rest) :
    Rewritten R (write.andThen fun _ => next) input rest := by
  obtain ⟨front, written, rfl, hwritten, hcompare⟩ := hfront
  obtain ⟨back, written', rfl, hwritten', hcompare'⟩ := hback
  refine ⟨front ++ back, written ++ written', by rw [List.append_assoc], ?_, ?_⟩
  · exact (writes_andThen_iff hwrite hnext).mpr ⟨written, written', hwritten, hwritten', rfl⟩
  · exact hR.append hcompare hcompare'

theorem rewritten_done (hR : ByteOrder R) (input : List UInt8) :
    Rewritten R (done ()) input input :=
  ⟨[], [], rfl, writes_done_iff.mpr rfl, hR.refl []⟩

theorem rewritten_append (hR : ByteOrder R) (part rest : List UInt8) :
    Rewritten R (append part) (part ++ rest) rest :=
  ⟨part, part, rfl, writes_append_iff.mpr rfl, hR.refl part⟩

theorem take_eq_ok_iff {size : Nat} {place : String} {part : List UInt8} :
    take size place input = (.ok part, rest) ↔ input = part ++ rest ∧ part.length = size := by
  unfold take
  split
  · rename_i hlength
    constructor
    · intro h
      cases h
    · rintro ⟨rfl, rfl⟩
      rw [List.length_append] at hlength
      omega
  · rename_i hlength
    rw [Prod.mk.injEq, Except.ok.injEq]
    constructor
    · rintro ⟨rfl, rfl⟩
      refine ⟨(List.take_append_drop size input).symm, ?_⟩
      rw [List.length_take]
      omega
    · rintro ⟨rfl, rfl⟩
      exact ⟨List.take_left, List.drop_left⟩

theorem eq_append_of_takeAddress {address : Address}
    (h : takeAddress input = (.ok address, rest)) : input = address.bytes ++ rest := by
  unfold takeAddress at h
  split at h
  · obtain ⟨htaken, rfl⟩ := Prod.mk.inj h
    obtain rfl := Except.ok.inj htaken
    exact (List.take_append_drop 32 input).symm
  · cases h

/-- A value computed from what is read. -/
theorem map_eq_ok_iff {f : α → β} {b : β} :
    (do return f (← read) : Step β) input = (.ok b, rest) ↔
      ∃ a, read input = (.ok a, rest) ∧ f a = b := by
  rw [bind_eq_ok_iff]
  constructor
  · rintro ⟨a, mid, hread, hdone⟩
    obtain ⟨hb, rfl⟩ := Prod.mk.inj hdone
    exact ⟨a, hread, Except.ok.inj hb⟩
  · rintro ⟨a, hread, rfl⟩
    exact ⟨a, rest, hread, rfl⟩

/-- A value computed from what two readers read one after the other. -/
theorem map₂_eq_ok_iff {γ : Type} {more : Step β} {f : α → β → γ} {c : γ} :
    (do return f (← read) (← more) : Step γ) input = (.ok c, rest) ↔
      ∃ a mid b, read input = (.ok a, mid) ∧ more mid = (.ok b, rest) ∧ f a b = c := by
  constructor
  · intro h
    obtain ⟨a, mid, hread, hmap⟩ := bind_eq_ok_iff.mp h
    obtain ⟨b, hmore, hc⟩ := map_eq_ok_iff.mp hmap
    exact ⟨a, mid, b, hread, hmore, hc⟩
  · rintro ⟨a, mid, b, hread, hmore, hc⟩
    exact bind_eq_ok_iff.mpr ⟨a, mid, hread, map_eq_ok_iff.mpr ⟨b, hmore, hc⟩⟩

theorem repeated_succ_eq_ok_iff {n : Nat} {items : List α} :
    repeated read (n + 1) input = (.ok items, rest) ↔
      ∃ item mid tail, read input = (.ok item, mid) ∧ repeated read n mid = (.ok tail, rest) ∧
        item :: tail = items :=
  map₂_eq_ok_iff

/-- So many items are read as are asked for. -/
theorem length_of_repeated : ∀ {n : Nat} {input rest : List UInt8} {items : List α},
    repeated read n input = (.ok items, rest) → items.length = n
  | 0, _, _, _, h => by
    obtain ⟨hitems, -⟩ := Prod.mk.inj h
    obtain rfl := Except.ok.inj hitems
    rfl
  | n + 1, _, _, _, h => by
    obtain ⟨item, mid, tail, -, htail, rfl⟩ := repeated_succ_eq_ok_iff.mp h
    rw [List.length_cons, length_of_repeated htail]

theorem rewrites_repeated (hR : ByteOrder R) {write : α → Step Unit}
    (happ : ∀ a, AppendsOnly (write a)) : ∀ {n : Nat} {items : List α},
    (∀ a ∈ items, Rewrites R read (write a) a) →
      Rewrites R (repeated read n) (each write items) items
  | 0, _, _ => by
    intro input rest h
    obtain ⟨hitems, rfl⟩ := Prod.mk.inj h
    obtain rfl := Except.ok.inj hitems
    exact rewritten_done hR input
  | n + 1, _, hitems => by
    intro input rest h
    obtain ⟨item, mid, tail, hread, htail, rfl⟩ := repeated_succ_eq_ok_iff.mp h
    have hhead := hitems item List.mem_cons_self input mid hread
    have hrest := rewrites_repeated hR happ (fun a ha => hitems a (List.mem_cons_of_mem _ ha))
      mid rest htail
    exact hhead.andThen hR (happ item) (appendsOnly_each happ tail) hrest

theorem rewrites_untilEmpty (hR : ByteOrder R) {write : α → Step Unit}
    (happ : ∀ a, AppendsOnly (write a)) {items : List α}
    (hitems : ∀ a ∈ items, Rewrites R read (write a) a) :
    Rewrites R (untilEmpty read) (each write items) items := by
  intro input
  -- Each item that is read makes the input shorter.
  induction hsize : input.length using Nat.strongRecOn generalizing input items with
  | ind size ih =>
    intro rest h
    by_cases hleft : input = []
    · rw [hleft, untilEmpty_nil] at h
      obtain ⟨hnil, rfl⟩ := Prod.mk.inj h
      obtain rfl := Except.ok.inj hnil
      rw [hleft]
      exact rewritten_done hR []
    · obtain ⟨item, mid, tail, hread, hlt, htail, rfl⟩ := (untilEmpty_eq_ok_iff hleft).mp h
      have hhead := hitems item List.mem_cons_self input mid hread
      have hrest := ih mid.length (hsize ▸ hlt) (fun a ha => hitems a (List.mem_cons_of_mem _ ha))
        mid rfl rest htail
      exact hhead.andThen hR (happ item) (appendsOnly_each happ tail) hrest

end Step

/-! ## Numbers -/

variable {R : List UInt8 → List UInt8 → Prop}

theorem takeNumber_eq_ok {format : NumberFormat} {width n : Nat} {input rest : List UInt8}
    (h : takeNumber format width input = (.ok n, rest)) :
    n < Nat.pow 2 (8 * width) ∧ input = littleEndian width n ++ rest := by
  unfold takeNumber at h
  split at h
  · cases h
  · rename_i hlength
    obtain ⟨hn, rfl⟩ := Prod.mk.inj h
    obtain rfl := Except.ok.inj hn
    have htaken : (input.take width).length = width := by
      rw [List.length_take]
      omega
    have hlt := ofLittleEndian_lt (input.take width)
    have hbytes := littleEndian_ofLittleEndian (input.take width)
    rw [htaken] at hlt hbytes
    rw [hbytes]
    exact ⟨hlt, (List.take_append_drop width input).symm⟩

/-- What has been read as the little endian bytes of a number is written again, if the writer
writes these bytes. -/
theorem rewritten_littleEndian (hR : ByteOrder R) {format : NumberFormat} {width n : Nat}
    {input rest : List UInt8} {write : Step Unit}
    (h : takeNumber format width input = (.ok n, rest))
    (hwrite : n < Nat.pow 2 (8 * width) → Writes write (littleEndian width n)) :
    Rewritten R write input rest := by
  obtain ⟨hlt, rfl⟩ := takeNumber_eq_ok h
  exact ⟨littleEndian width n, _, rfl, hwrite hlt, hR.refl _⟩

variable {format : NumberFormat} {value : Value}

theorem rewrites_unsigned (hR : ByteOrder R) (width : Nat) :
    Rewrites R (readUnsigned format width) (writeUnsigned format width value) value := by
  intro input rest h
  obtain ⟨n, htake, rfl⟩ := map_eq_ok_iff.mp h
  exact rewritten_littleEndian hR htake fun hlt => writes_unsigned_iff.mpr ⟨n, rfl, hlt, rfl⟩

theorem rewrites_signed (hR : ByteOrder R) {width : Nat} (hw : 0 < width) :
    Rewrites R (readSigned format width) (writeSigned format width value) value := by
  intro input rest h
  obtain ⟨n, htake, rfl⟩ := map_eq_ok_iff.mp h
  refine rewritten_littleEndian hR htake fun hlt => ?_
  obtain ⟨hlow, hhigh, hcomplement⟩ := ofTwosComplement_spec hw hlt
  exact writes_signed_iff.mpr ⟨_, rfl, hlow, hhigh, by rw [hcomplement]⟩

/-- A floating point number is written again if its bits are those that it was made of. -/
theorem rewrites_float (hR : ByteOrder R) {width : Nat} {isNaN : Nat → Bool}
    {ofBits : Nat → Number.Double} {bits : Number.Double → Nat}
    (hback : ∀ n < Nat.pow 2 (8 * width), isNaN n = false →
      (ofBits n).isNaN = false ∧ bits (ofBits n) = n) :
    Rewrites R (readFloat format width isNaN ofBits) (writeFloat format width bits value)
      value := by
  intro input rest h
  obtain ⟨n, mid, htake, hfloat⟩ := bind_eq_ok_iff.mp h
  split at hfloat
  · cases hfloat
  · rename_i hnumber
    obtain ⟨hvalue, rfl⟩ := Prod.mk.inj hfloat
    obtain rfl := Except.ok.inj hvalue
    refine rewritten_littleEndian hR htake fun hlt => ?_
    obtain ⟨hnan, hbits⟩ := hback n hlt (by simpa using hnumber)
    exact writes_float_iff.mpr ⟨_, rfl, hnan, by rw [hbits]⟩

/-- **A number of fixed width has no other bytes** than those that it was read from. -/
theorem rewrites_number (hR : ByteOrder R) (hformat : format ≠ .shortU16) :
    Rewrites R (readNumber format) (writeNumber format value) value := by
  cases format
  case u8 | u16 | u32 | u64 | u128 => exact rewrites_unsigned hR _
  case i8 | i16 | i32 | i64 | i128 => exact rewrites_signed hR (by decide)
  case f32 =>
    refine rewrites_float hR fun n hlt hnumber => ?_
    exact ⟨Number.Double.isNaN_ofSingle n, Number.Double.toSingle_ofSingle hlt hnumber⟩
  case f64 =>
    refine rewrites_float hR fun n hlt hnumber => ?_
    exact ⟨hnumber, UInt64.toNat_ofNat_of_lt' hlt⟩
  case shortU16 => exact absurd rfl hformat

/-! ## Sizes and flags -/

/-- Where an integer is read that can be taken for this number, the number without sign is written
to bytes that compare with those of the integer. -/
def SizeRewrites (R : List UInt8 → List UInt8 → Prop) (format : NumberFormat) (n : Nat) : Prop :=
  ∀ value, value.unsigned? = some n →
    Rewrites R (readNumber format) (writeNumber format (.unsigned n)) value

theorem integer?_of_unsigned? {n : Nat} (h : value.unsigned? = some n) :
    value.integer? = some (n : Int) := by
  cases value
  case unsigned m =>
    obtain rfl := Option.some.inj h
    rfl
  case signed i =>
    cases i with
    | ofNat m =>
      obtain rfl := Option.some.inj h
      rfl
    | negSucc m => cases h
  all_goals cases h

theorem sizeRewrites_of_ne_short (hR : ByteOrder R) (hformat : format ≠ .shortU16) (n : Nat) :
    SizeRewrites R format n := by
  intro value hvalue input rest h
  refine (rewrites_number hR hformat input rest h).of_writes fun bytes => ?_
  exact (writes_number_congr (integer?_of_unsigned? hvalue) rfl).mp

/-- The number read back as a size is written as the size. -/
theorem SizeRewrites.size {n : Nat} (h : SizeRewrites R format n) (error : WireError) :
    Rewrites R (readSize format error) (writeNumber format (.unsigned n)) n := by
  intro input rest hread
  obtain ⟨value, mid, hnumber, hsize⟩ := bind_eq_ok_iff.mp hread
  cases hfilter : value.unsigned?.filter (· < sizeLimit) with
  | none =>
    rw [hfilter] at hsize
    cases hsize
  | some m =>
    rw [hfilter] at hsize
    obtain ⟨hm, rfl⟩ := Prod.mk.inj hsize
    obtain rfl := Except.ok.inj hm
    obtain ⟨hvalue, -⟩ := Option.filter_eq_some_iff.mp hfilter
    exact h value hvalue input mid hnumber

/-! ## Bytes and items -/

theorem rewrites_readBytes (hR : ByteOrder R) {length : Length} {part : List UInt8}
    (hsize : ∀ format, length = .prefixed format → SizeRewrites R format part.length)
    (place : String) : Rewrites R (readBytes length place) (writeBytes length part place) part := by
  intro input rest h
  cases length with
  | prefixed format =>
    obtain ⟨n, mid, hn, htake⟩ := bind_eq_ok_iff.mp h
    obtain ⟨rfl, rfl⟩ := take_eq_ok_iff.mp htake
    have hfront := (hsize format rfl).size .lengthTooGreat input _ hn
    exact hfront.andThen hR (writeNumber_appendsOnly format _) (appendsOnly_append part)
      (rewritten_append hR part rest)
  | fixed n =>
    obtain ⟨rfl, rfl⟩ := take_eq_ok_iff.mp h
    exact ⟨part, part, rfl, writes_fixedBytes_iff.mpr ⟨rfl, rfl⟩, hR.refl part⟩
  | remainder =>
    obtain ⟨hpart, rfl⟩ := Prod.mk.inj h
    obtain rfl := Except.ok.inj hpart
    exact ⟨input, input, (List.append_nil input).symm, writes_remainderBytes_iff.mpr rfl,
      hR.refl input⟩

theorem rewrites_readList {α : Type} (hR : ByteOrder R) {read : Step α} {write : α → Step Unit}
    (happ : ∀ a, AppendsOnly (write a)) {count : Length} {items : List α}
    (hsize : ∀ format, count = .prefixed format → SizeRewrites R format items.length)
    (hitems : ∀ a ∈ items, Rewrites R read (write a) a) (place : String) :
    Rewrites R (readList count read)
      (.andThen (writeCount count items.length place) fun _ => each write items) items := by
  intro input rest h
  have hcount := writeCount_appendsOnly count items.length place
  have heach := appendsOnly_each happ items
  cases count with
  | prefixed format =>
    obtain ⟨n, mid, hn, hrepeated⟩ := bind_eq_ok_iff.mp h
    obtain rfl := length_of_repeated hrepeated
    have hfront := (hsize format rfl).size .lengthTooGreat input mid hn
    exact hfront.andThen hR hcount heach (rewrites_repeated hR happ hitems mid rest hrepeated)
  | fixed n =>
    obtain rfl := length_of_repeated h
    have hfront : Rewritten R (writeCount (.fixed items.length) items.length place) input input :=
      ⟨[], [], rfl, writes_fixedCount_iff.mpr ⟨rfl, rfl⟩, hR.refl []⟩
    exact hfront.andThen hR hcount heach (rewrites_repeated hR happ hitems input rest h)
  | remainder =>
    have hfront : Rewritten R (writeCount .remainder items.length place) input input :=
      rewritten_done hR input
    exact hfront.andThen hR hcount heach (rewrites_untilEmpty hR happ hitems input rest h)

/-! ## Parts in a row -/

/-- Where a codec reads the value, it writes bytes that compare with those that were read. -/
def Codec.Rewrites (R : List UInt8 → List UInt8 → Prop) (codec : Codec) (value : Value) : Prop :=
  Step.Rewrites R codec.read (codec.write value) value

theorem length_of_readItems : ∀ {items : List Codec} {values : List Value}
    {input rest : List UInt8}, readItems items input = (.ok values, rest) →
      values.length = items.length
  | [], _, _, _, h => by
    obtain ⟨hvalues, -⟩ := Prod.mk.inj h
    obtain rfl := Except.ok.inj hvalues
    rfl
  | item :: items, _, _, _, h => by
    rw [readItems_cons] at h
    obtain ⟨value, mid, values, -, htail, rfl⟩ := map₂_eq_ok_iff.mp h
    rw [List.length_cons, List.length_cons, length_of_readItems htail]

theorem rewrites_readItems (hR : ByteOrder R) : ∀ {items : List Codec} {values : List Value},
    (∀ place ∈ items.zip values, place.1.Rewrites R place.2) →
      Rewrites R (readItems items) (writeItems items values) values
  | [], _, _ => by
    intro input rest h
    obtain ⟨-, rfl⟩ := Prod.mk.inj h
    exact rewritten_done hR input
  | item :: items, _, hplaces => by
    intro input rest h
    rw [readItems_cons] at h
    obtain ⟨value, mid, values, hread, htail, rfl⟩ := map₂_eq_ok_iff.mp h
    rw [List.zip_cons_cons] at hplaces
    have hhead := hplaces (item, value) List.mem_cons_self input mid hread
    have hrest := rewrites_readItems hR
      (fun place hplace => hplaces place (List.mem_cons_of_mem _ hplace)) mid rest htail
    exact hhead.andThen hR (item.write_appendsOnly value) (writeItems_appendsOnly items values) hrest

/-- The fields that are read have their names, and their values are read like items. -/
theorem readFields_eq_ok : ∀ {fields : List FieldCodec} {entries : List (String × Value)}
    {input rest : List UInt8}, readFields fields input = (.ok entries, rest) →
      entries = (fields.map FieldCodec.name).zip (entries.map Prod.snd) ∧
        readItems (fields.map FieldCodec.codec) input = (.ok (entries.map Prod.snd), rest)
  | [], _, _, _, h => by
    obtain ⟨hentries, rfl⟩ := Prod.mk.inj h
    obtain rfl := Except.ok.inj hentries
    exact ⟨rfl, rfl⟩
  | ⟨name, codec⟩ :: fields, _, _, _, h => by
    rw [readFields_cons] at h
    obtain ⟨value, mid, entries, hread, htail, rfl⟩ := map₂_eq_ok_iff.mp h
    obtain ⟨hzip, hitems⟩ := readFields_eq_ok htail
    refine ⟨?_, ?_⟩
    · rw [List.map_cons, List.map_cons, List.zip_cons_cons, ← hzip]
    · rw [List.map_cons, List.map_cons, readItems_cons]
      exact map₂_eq_ok_iff.mpr ⟨value, mid, _, hread, hitems, rfl⟩

/-- Fields of distinct names have their places in order, if their values stand in their order. -/
theorem placesOfFields_zip : ∀ {fields : List FieldCodec} {values : List Value},
    (fields.map FieldCodec.name).Nodup → values.length = fields.length →
      placesOfFields fields ((fields.map FieldCodec.name).zip values) =
        (fields.map FieldCodec.codec).zip values
  | [], _, _, _ => rfl
  | ⟨name, codec⟩ :: fields, value :: values, hnames, hlength => by
    rw [List.map_cons, List.nodup_cons] at hnames
    have hrest := placesOfFields_zip hnames.2 (Nat.succ.inj hlength)
    have hcongr : placesOfFields fields ((name, value) :: (fields.map FieldCodec.name).zip values) =
        placesOfFields fields ((fields.map FieldCodec.name).zip values) := by
      refine List.filterMap_congr fun field hfield => ?_
      have hne : field.name ≠ name := by
        intro heq
        exact hnames.1 (List.mem_map.mpr ⟨field, hfield, heq⟩)
      rw [List.lookup_cons, beq_false_of_ne hne]
    rw [List.map_cons, List.map_cons, List.zip_cons_cons, List.zip_cons_cons, ← hrest, ← hcongr]
    simp [placesOfFields]

/-! ## One rule for all kinds of codec -/

namespace Codec

/-- The number that a codec writes on its own account for a value: an integer, a flag, a number of
items or bytes, or the index of a variant. -/
def stored? : Codec → Value → Option (NumberFormat × Nat)
  | .number format, value => value.unsigned?.map fun n => (format, n)
  | .boolean format, .bool flag => some (format, flag.toNat)
  | .string (.prefixed format), .string text => some (format, (Text.Utf8.encode text).length)
  | .bytes (.prefixed format), .bytes data => some (format, data.length)
  | .option _ format _, .option value => some (format, value.isSome.toNat)
  | .list _ (.prefixed format), .list items | .set _ (.prefixed format), .list items =>
    some (format, items.length)
  | .map _ _ (.prefixed format), .map entries => some (format, entries.length)
  | .enum _ format _, .enum index _ => some (format, index)
  | _, _ => none

/-- Whether the bytes of a codec are cut off by a size of their own. -/
def isWrapper : Codec → Bool
  | .sizePrefixed _ _ | .fixedSize _ _ => true
  | _ => false

variable {codec : Codec}

/-! ### One lemma for each kind of codec -/

theorem exists_unsigned_of_readShort : ∀ {more place n : Nat} {input rest : List UInt8},
    readShort place n more input = (.ok value, rest) → ∃ m, value = .unsigned m
  | 0, _, _, _, _, h => by cases h
  | more + 1, place, n, _, _, h => by
    obtain ⟨part, mid, -, hgroup⟩ := bind_eq_ok_iff.mp h
    split at hgroup
    · obtain ⟨hvalue, -⟩ := Prod.mk.inj hgroup
      exact ⟨_, (Except.ok.inj hvalue).symm⟩
    · exact exists_unsigned_of_readShort hgroup

theorem rewrites_codecNumber (hR : ByteOrder R)
    (hstored : ∀ n, value.unsigned? = some n → SizeRewrites R format n) :
    (Codec.number format).Rewrites R value := by
  by_cases hshort : format = .shortU16
  · subst hshort
    intro input rest h
    obtain ⟨n, rfl⟩ := exists_unsigned_of_readShort h
    exact hstored n rfl (.unsigned n) rfl input rest h
  · exact rewrites_number hR hshort

theorem rewrites_boolean
    (hstored : ∀ flag, value = .bool flag → SizeRewrites R format flag.toNat) :
    (Codec.boolean format).Rewrites R value := by
  intro input rest h
  rw [read_boolean] at h
  obtain ⟨number, mid, hnumber, hflag⟩ := bind_eq_ok_iff.mp h
  -- Only the numbers zero and one are flags.
  rcases hunsigned : number.unsigned? with _ | _ | _ | n <;> rw [hunsigned] at hflag
  case none => cases hflag
  case some.zero =>
    obtain ⟨hvalue, rfl⟩ := Prod.mk.inj hflag
    obtain rfl := Except.ok.inj hvalue
    exact hstored false rfl number hunsigned input mid hnumber
  case some.succ.zero =>
    obtain ⟨hvalue, rfl⟩ := Prod.mk.inj hflag
    obtain rfl := Except.ok.inj hvalue
    exact hstored true rfl number hunsigned input mid hnumber
  case some.succ.succ => cases hflag

theorem rewrites_string (hR : ByteOrder R) {length : Length}
    (hstored : ∀ format text, length = .prefixed format → value = .string text →
      SizeRewrites R format (Text.Utf8.encode text).length) :
    (Codec.string length).Rewrites R value := by
  intro input rest h
  rw [read_string] at h
  obtain ⟨part, mid, hpart, htext⟩ := bind_eq_ok_iff.mp h
  cases hdecode : Text.Utf8.decode part with
  | error fault =>
    rw [hdecode] at htext
    cases htext
  | ok text =>
    rw [hdecode] at htext
    obtain ⟨hvalue, rfl⟩ := Prod.mk.inj htext
    obtain rfl := Except.ok.inj hvalue
    -- The text is written to the bytes that it was read from.
    obtain rfl := Text.Utf8.encode_of_decode hdecode
    exact rewrites_readBytes hR (fun format hformat => hstored format text hformat rfl) "string"
      input mid hpart

theorem rewrites_bytes (hR : ByteOrder R) {length : Length}
    (hstored : ∀ format data, length = .prefixed format → value = .bytes data →
      SizeRewrites R format data.length) :
    (Codec.bytes length).Rewrites R value := by
  intro input rest h
  rw [read_bytes] at h
  obtain ⟨data, hdata, rfl⟩ := map_eq_ok_iff.mp h
  exact rewrites_readBytes hR (fun format hformat => hstored format data hformat rfl) "bytes"
    input rest hdata

theorem rewrites_publicKey (hR : ByteOrder R) : Codec.publicKey.Rewrites R value := by
  intro input rest h
  rw [read_publicKey] at h
  obtain ⟨address, haddress, rfl⟩ := map_eq_ok_iff.mp h
  exact ⟨address.bytes, _, eq_append_of_takeAddress haddress,
    writes_publicKey_iff.mpr ⟨_, rfl, rfl⟩, hR.refl _⟩

/-- An absent value is read from a flag and a gap; what fills the gap is passed over. -/
theorem rewritten_absent (hR : ByteOrder R) {item : Codec} {isFixed : Bool} {number : Value}
    {gap : List UInt8} (hstored : SizeRewrites R format 0)
    (hgap : isFixed = true → ∀ gap gap' : List UInt8, gap.length = gap'.length → R gap gap')
    (hnumber : readNumber format input = (.ok number, gap ++ rest))
    (hzero : number.unsigned? = some 0) (hpadding : item.padding? isFixed = some gap.length) :
    Rewritten R ((Codec.option item format isFixed).write (.option none)) input rest := by
  obtain ⟨front, written, rfl, hwritten, hcompare⟩ := hstored number hzero input _ hnumber
  refine ⟨front ++ gap, written ++ List.replicate gap.length 0, by rw [List.append_assoc], ?_, ?_⟩
  · exact writes_absent_iff.mpr ⟨written, gap.length, hwritten, hpadding, rfl⟩
  · refine hR.append hcompare ?_
    cases isFixed with
    | true => exact hgap rfl _ _ List.length_replicate
    | false =>
      obtain rfl := List.length_eq_zero_iff.mp (Option.some.inj hpadding).symm
      exact hR.refl []

theorem rewrites_option (hR : ByteOrder R) {item : Codec} {isFixed : Bool}
    (hstored : ∀ inner, value = .option inner → SizeRewrites R format inner.isSome.toNat)
    (hgap : isFixed = true → ∀ gap gap' : List UInt8, gap.length = gap'.length → R gap gap')
    (hitem : ∀ inner, value = .option (some inner) → item.Rewrites R inner) :
    (Codec.option item format isFixed).Rewrites R value := by
  intro input rest h
  rw [read_option] at h
  obtain ⟨number, mid, hnumber, hrest⟩ := bind_eq_ok_iff.mp h
  -- The flag decides: zero for an absent value, one for a present one, and all else is refused.
  rcases hunsigned : number.unsigned? with _ | _ | _ | n <;> rw [hunsigned] at hrest
  case none | some.succ.succ => cases hrest
  case some.zero =>
    cases isFixed with
    | false =>
      obtain ⟨hvalue, rfl⟩ := Prod.mk.inj hrest
      obtain rfl := Except.ok.inj hvalue
      have hnumber : readNumber format input = (.ok number, [] ++ _) := hnumber
      exact rewritten_absent hR (hstored none rfl) hgap hnumber hunsigned rfl
    | true =>
      obtain ⟨size, left, hsize, hrest⟩ := bind_eq_ok_iff.mp hrest
      obtain ⟨gap, last, htake, hdone⟩ := bind_eq_ok_iff.mp hrest
      obtain ⟨rfl, rfl⟩ := take_eq_ok_iff.mp htake
      obtain ⟨hvalue, rfl⟩ := Prod.mk.inj hdone
      obtain rfl := Except.ok.inj hvalue
      cases hfixed : item.fixedSize? with
      | none =>
        rw [hfixed] at hsize
        cases hsize
      | some width =>
        rw [hfixed] at hsize
        obtain ⟨hwidth, rfl⟩ := Prod.mk.inj hsize
        refine rewritten_absent hR (hstored none rfl) hgap hnumber hunsigned ?_
        rw [padding?, if_pos rfl, hfixed, Except.ok.inj hwidth]
  case some.succ.zero =>
    obtain ⟨inner, hinner, rfl⟩ := map_eq_ok_iff.mp hrest
    have hfront := hstored (some inner) rfl number hunsigned input mid hnumber
    exact hfront.andThen hR (writeNumber_appendsOnly format _) (item.write_appendsOnly inner)
      (hitem inner rfl mid rest hinner)

theorem rewrites_list (hR : ByteOrder R) {item : Codec} {count : Length}
    (hstored : ∀ format items, count = .prefixed format → value = .list items →
      SizeRewrites R format items.length)
    (hplaces : ∀ place ∈ (Codec.list item count).places value, place.1.Rewrites R place.2) :
    (Codec.list item count).Rewrites R value := by
  intro input rest h
  rw [read_list] at h
  obtain ⟨items, hitems, rfl⟩ := map_eq_ok_iff.mp h
  have hitem : ∀ a ∈ items, Step.Rewrites R item.read (item.write a) a := fun a ha =>
    hplaces (item, a) (List.mem_map_of_mem ha)
  exact rewrites_readList hR item.write_appendsOnly
    (fun format hformat => hstored format items hformat rfl) hitem "list" input rest hitems

theorem rewrites_entry (hR : ByteOrder R) {key val : Codec} {entry : Value × Value}
    (hkey : key.Rewrites R entry.1) (hval : val.Rewrites R entry.2) :
    Step.Rewrites R (do return (← key.read, ← val.read)) (key.writeEntry val entry) entry := by
  intro input rest h
  obtain ⟨k, mid, v, hk, hv, rfl⟩ := map₂_eq_ok_iff.mp h
  exact (hkey input mid hk).andThen hR (key.write_appendsOnly k) (val.write_appendsOnly v)
    (hval mid rest hv)

theorem rewrites_map (hR : ByteOrder R) {key val : Codec} {count : Length}
    (hstored : ∀ format entries, count = .prefixed format → value = .map entries →
      SizeRewrites R format entries.length)
    (hplaces : ∀ place ∈ (Codec.map key val count).places value, place.1.Rewrites R place.2) :
    (Codec.map key val count).Rewrites R value := by
  intro input rest h
  rw [read_map] at h
  obtain ⟨entries, hentries, rfl⟩ := map_eq_ok_iff.mp h
  have hentry : ∀ entry ∈ entries, Step.Rewrites R (do return (← key.read, ← val.read))
      (key.writeEntry val entry) entry := by
    intro entry hentry
    have hmem : ∀ place ∈ [(key, entry.1), (val, entry.2)], place.1.Rewrites R place.2 :=
      fun place hplace => hplaces place (List.mem_flatMap.mpr ⟨entry, hentry, hplace⟩)
    exact rewrites_entry hR (hmem _ List.mem_cons_self)
      (hmem _ (List.mem_cons_of_mem _ List.mem_cons_self))
  exact rewrites_readList hR (key.writeEntry_appendsOnly val)
    (fun format hformat => hstored format entries hformat rfl) hentry "map" input rest hentries

theorem rewrites_tuple (hR : ByteOrder R) {items : List Codec}
    (hplaces : ∀ place ∈ (Codec.tuple items).places value, place.1.Rewrites R place.2) :
    (Codec.tuple items).Rewrites R value := by
  intro input rest h
  rw [read_tuple] at h
  obtain ⟨values, hvalues, rfl⟩ := map_eq_ok_iff.mp h
  refine (rewrites_readItems hR hplaces input rest hvalues).of_writes fun bytes hbytes => ?_
  exact writes_tuple_iff.mpr ⟨values, rfl, (length_of_readItems hvalues).symm, hbytes⟩

theorem rewrites_struct (hR : ByteOrder R) {name : String} {fields : List FieldCodec}
    (hnames : (fields.map FieldCodec.name).Nodup)
    (hplaces : ∀ place ∈ (Codec.struct name fields).places value, place.1.Rewrites R place.2) :
    (Codec.struct name fields).Rewrites R value := by
  intro input rest h
  rw [read_struct] at h
  obtain ⟨entries, hentries, rfl⟩ := map_eq_ok_iff.mp h
  obtain ⟨hzip, hitems⟩ := readFields_eq_ok hentries
  have hlength := length_of_readItems hitems
  rw [List.length_map (f := FieldCodec.codec)] at hlength
  -- With distinct names, fields are written and have their places like items.
  have hwrite := writeFields_zip hnames hlength
  have hzipped := placesOfFields_zip hnames hlength
  rw [← hzip] at hwrite hzipped
  have hplaces' : ∀ place ∈ placesOfFields fields entries, place.1.Rewrites R place.2 := hplaces
  rw [hzipped] at hplaces'
  refine (rewrites_readItems hR hplaces' input rest hitems).of_writes fun bytes hbytes => ?_
  exact writes_struct_iff.mpr ⟨entries, rfl, hwrite ▸ hbytes⟩

theorem rewrites_enum (hR : ByteOrder R) {name : String} {variants : List VariantCodec}
    (hnames : (Codec.enum name format variants).OwnNamesDistinct)
    (hstored : ∀ index values, value = .enum index values → SizeRewrites R format index)
    (hplaces : ∀ place ∈ (Codec.enum name format variants).places value,
      place.1.Rewrites R place.2) :
    (Codec.enum name format variants).Rewrites R value := by
  intro input rest h
  rw [read_enum] at h
  obtain ⟨index, mid, hindex, hpayload⟩ := bind_eq_ok_iff.mp h
  obtain ⟨values, hvalues, rfl⟩ := map_eq_ok_iff.mp hpayload
  cases hget : variants[index]? with
  | none =>
    rw [readVariant_eq_fail hget] at hvalues
    cases hvalues
  | some variant =>
    rw [readVariant_eq hget] at hvalues
    rw [places_enum hget] at hplaces
    have hown := hnames variant (List.mem_of_getElem? hget)
    have harity : values.length = variant.payload.arity := by
      rw [length_of_readItems hvalues, variant.payload.length_codecs]
    have hfront := (hstored index values rfl).size (.invalidVariant name) input mid hindex
    have hback := rewrites_readItems hR hplaces mid rest hvalues
    refine (hfront.andThen hR (writeNumber_appendsOnly format _)
      (writeItems_appendsOnly _ values) hback).of_writes fun bytes hbytes => ?_
    obtain ⟨front, back, hfront, hback, rfl⟩ := (writes_andThen_iff
      (writeNumber_appendsOnly format _) (writeItems_appendsOnly _ values)).mp hbytes
    rw [← Payload.write_eq hown harity] at hback
    exact writes_enum_iff.mpr ⟨index, values, rfl,
      writes_variant_iff.mpr ⟨variant, hget, harity, front, back, hfront, hback, rfl⟩⟩

/-- **A value is written again if its parts are**, as far as the stored number and the gap of an
absent value are. -/
theorem rewrites_of_places (hR : ByteOrder R) (hwrapper : codec.isWrapper = false)
    (hnames : codec.OwnNamesDistinct)
    (hstored : ∀ format n, codec.stored? value = some (format, n) → SizeRewrites R format n)
    (hgap : ∀ item flag, codec = .option item flag true →
      ∀ gap gap' : List UInt8, gap.length = gap'.length → R gap gap')
    (hplaces : ∀ place ∈ codec.places value, place.1.Rewrites R place.2) :
    codec.Rewrites R value := by
  cases codec
  case number format =>
    refine rewrites_codecNumber hR fun n hn => hstored format n ?_
    rw [stored?, hn]
    rfl
  case boolean format =>
    refine rewrites_boolean ?_
    rintro flag rfl
    exact hstored format flag.toNat rfl
  case string length =>
    refine rewrites_string hR ?_
    rintro format text rfl rfl
    exact hstored format _ rfl
  case bytes length =>
    refine rewrites_bytes hR ?_
    rintro format data rfl rfl
    exact hstored format _ rfl
  case publicKey => exact rewrites_publicKey hR
  case option item flag isFixed =>
    refine rewrites_option hR ?_ ?_ ?_
    · rintro inner rfl
      exact hstored flag _ rfl
    · rintro rfl
      exact hgap item flag rfl
    · rintro inner rfl
      exact hplaces (item, inner) List.mem_cons_self
  case list item count =>
    refine rewrites_list hR ?_ hplaces
    rintro format items rfl rfl
    exact hstored format _ rfl
  -- Sets and typed lists are read and written as lists.
  case set item count =>
    rw [places_set] at hplaces
    have hlist : (Codec.list item count).Rewrites R value := by
      refine rewrites_list hR ?_ hplaces
      rintro format items rfl rfl
      exact hstored format _ rfl
    exact fun input rest h => (hlist input rest h).of_writes fun bytes => writes_set_iff.mpr
  case typedArray item count =>
    rw [places_typedArray] at hplaces
    have hlist : (Codec.list item (.fixed count)).Rewrites R value :=
      rewrites_list hR (by nofun) hplaces
    exact fun input rest h => (hlist input rest h).of_writes fun bytes =>
      writes_typedArray_iff.mpr
  case map key val count =>
    refine rewrites_map hR ?_ hplaces
    rintro format entries rfl rfl
    exact hstored format _ rfl
  case tuple items => exact rewrites_tuple hR hplaces
  case struct name fields => exact rewrites_struct hR hnames hplaces
  case enum name size variants =>
    refine rewrites_enum hR hnames ?_ hplaces
    rintro index values rfl
    exact hstored size index rfl
  case sizePrefixed | fixedSize => cases hwrapper
  case defined | unknown =>
    intro input rest h
    cases h

end Codec

end DartClient
