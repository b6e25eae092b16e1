import DartClient.Proofs.Codec.Sizes
import DartClient.Proofs.Wire.Equivalence

/-!
# How much is written and read

The exact size and the greatest size of a codec make the same kind of promise about the number of
bytes that are written and read with it: it is equal to the size, or it is at most the size. Both
comparisons can be added up, and nothing else about them matters here. A codec measures a size if
the number of bytes always compares with it, and every kind of codec measures what is computed from
the sizes that its parts measure.

## Main definitions

* `SizeOrder`: comparisons that can be added up.
* `Step.WritesSize`, `Step.ReadsSize`: how much a writer writes and how much a reader takes.
* `Codec.Measures`: how much is written and read with a codec.
* `Codec.RowMeasures`: the same for codecs in a row.

## Main results

* `Step.ReadsSize.bind`, `Step.writesSize_each`: what follows each other adds up.
* `Codec.Measures.option`, `Codec.Measures.list`, `Codec.Measures.enum` and so on: one for each kind
  of codec.
-/

namespace DartClient

open Idl (NumberFormat)
open Step

/-- A comparison of a number of bytes with a size. -/
structure SizeOrder (R : Nat → Nat → Prop) : Prop where
  /-- A number of bytes compares with itself. -/
  refl : ∀ n, R n n
  /-- Numbers of bytes that compare with sizes do so together. -/
  add : ∀ {a b m n}, R a m → R b n → R (a + b) (m + n)

theorem sizeOrder_eq : SizeOrder (· = ·) where
  refl _ := rfl
  add := by
    rintro a b m n rfl rfl
    rfl

theorem sizeOrder_le : SizeOrder (· ≤ ·) where
  refl := Nat.le_refl
  add := Nat.add_le_add

/-! ## Writers and readers -/

namespace Step

variable {α β : Type} {R : Nat → Nat → Prop} {m n : Nat}

/-- The number of bytes that the writer writes, if it succeeds, compares with the size. -/
def WritesSize (R : Nat → Nat → Prop) (write : Step Unit) (n : Nat) : Prop :=
  ∀ bytes, Writes write bytes → R bytes.length n

/-- The number of bytes that the reader takes, if it succeeds, compares with the size. -/
def ReadsSize (R : Nat → Nat → Prop) (read : Step α) (n : Nat) : Prop :=
  ∀ input a rest, read input = (.ok a, rest) →
    ∃ taken, input = taken ++ rest ∧ R taken.length n

theorem writesSize_each (hR : SizeOrder R) {write : α → Step Unit}
    (happ : ∀ a, AppendsOnly (write a)) (h : ∀ a, WritesSize R (write a) n) :
    ∀ items : List α, WritesSize R (each write items) (n * items.length)
  | [] => by
    intro bytes hbytes
    obtain rfl := writes_done_iff.mp hbytes
    exact hR.refl 0
  | a :: items => by
    intro bytes hbytes
    obtain ⟨front, back, hfront, hback, rfl⟩ := (writes_each_cons_iff happ).mp hbytes
    have htail := writesSize_each hR happ h items back hback
    rw [List.length_append, List.length_cons, Nat.mul_succ, Nat.add_comm (n * _)]
    exact hR.add (h a front hfront) htail

theorem ReadsSize.bind (hR : SizeOrder R) {read : Step α} {next : α → Step β}
    (h : ReadsSize R read m) (hnext : ∀ a, ReadsSize R (next a) n) :
    ReadsSize R (read >>= next) (m + n) := by
  intro input b rest hread
  obtain ⟨a, mid, hfront, hback⟩ := bind_eq_ok_iff.mp hread
  obtain ⟨front, rfl, hm⟩ := h input a mid hfront
  obtain ⟨back, rfl, hn⟩ := hnext a mid b rest hback
  refine ⟨front ++ back, by rw [List.append_assoc], ?_⟩
  rw [List.length_append]
  exact hR.add hm hn

theorem readsSize_done (hR : SizeOrder R) (a : α) : ReadsSize R (done a) 0 := by
  intro input a rest hread
  obtain ⟨-, rfl⟩ := Prod.mk.inj hread
  exact ⟨[], rfl, hR.refl 0⟩

theorem readsSize_fail (error : WireError) : ReadsSize R (fail error : Step α) n := by
  intro input a rest hread
  cases hread

/-- A value computed from what is read takes no further bytes. -/
theorem ReadsSize.map (hR : SizeOrder R) {read : Step α} {f : α → β} (h : ReadsSize R read n) :
    ReadsSize R (do return f (← read)) n :=
  h.bind hR fun a => readsSize_done hR (f a)

theorem readsSize_ofOption (hR : SizeOrder R) (value : Option α) (error : WireError) :
    ReadsSize R (ofOption value error) 0 := by
  cases value with
  | none => exact readsSize_fail error
  | some a => exact readsSize_done hR a

/-- What stands in front of the rest, where a number of bytes has been dropped. -/
theorem exists_taken (hR : SizeOrder R) {input : List UInt8} (hlength : n ≤ input.length) :
    ∃ taken, input = taken ++ input.drop n ∧ R taken.length n := by
  refine ⟨input.take n, (List.take_append_drop n input).symm, ?_⟩
  rw [List.length_take, Nat.min_eq_left hlength]
  exact hR.refl n

theorem readsSize_take (hR : SizeOrder R) (n : Nat) (place : String) :
    ReadsSize R (take n place) n := by
  intro input a rest hread
  unfold take at hread
  split at hread
  · cases hread
  · rename_i hlength
    obtain ⟨-, rfl⟩ := Prod.mk.inj hread
    exact exists_taken hR (Nat.le_of_not_lt hlength)

theorem readsSize_within (hR : SizeOrder R) (part : List UInt8) (read : Step α) :
    ReadsSize R (within part read) 0 := by
  intro input a rest hread
  obtain ⟨-, rfl⟩ := Prod.mk.inj hread
  exact ⟨[], rfl, hR.refl 0⟩

theorem readsSize_repeated (hR : SizeOrder R) {read : Step α} (h : ReadsSize R read n) :
    ∀ count, ReadsSize R (repeated read count) (n * count)
  | 0 => readsSize_done hR []
  | count + 1 => by
    have hitems : ∀ item, ReadsSize R (do return item :: (← repeated read count)) (n * count) :=
      fun _ => (readsSize_repeated hR h count).map hR
    have hcons := h.bind hR hitems
    rw [Nat.add_comm, ← Nat.mul_succ] at hcons
    exact hcons

end Step

/-! ## Codecs -/

namespace Codec

variable {R : Nat → Nat → Prop} {codec : Codec} {m n : Nat}

/-- The number of bytes that are written and read with the codec compares with the size. -/
structure Measures (R : Nat → Nat → Prop) (codec : Codec) (n : Nat) : Prop where
  /-- The bytes of a value. -/
  writes : ∀ value, WritesSize R (codec.write value) n
  /-- The bytes that are taken. -/
  reads : ReadsSize R codec.read n

namespace Measures

/-- Codecs with the same wire format measure the same sizes. -/
theorem congr {codec' : Codec} (hwire : codec.SameWire codec') (h : codec'.Measures R n) :
    codec.Measures R n where
  writes value bytes hbytes := h.writes value bytes ((hwire.writes value bytes).mp hbytes)
  reads input value rest hread := h.reads input value rest ((hwire.reads _ _ _).mp hread)

/-! ### Numbers -/

theorem readsSize_takeNumber (hR : SizeOrder R) (format : NumberFormat) (width : Nat) :
    ReadsSize R (takeNumber format width) width := by
  intro input n rest hread
  unfold takeNumber at hread
  split at hread
  · cases hread
  · rename_i hlength
    obtain ⟨-, rfl⟩ := Prod.mk.inj hread
    exact exists_taken hR (Nat.le_of_not_lt hlength)

theorem readsSize_readFloat (hR : SizeOrder R) (format : NumberFormat) (width : Nat)
    (isNaN : Nat → Bool) (ofBits : Nat → Number.Double) :
    ReadsSize R (readFloat format width isNaN ofBits) width := by
  refine (readsSize_takeNumber hR format width).bind (n := 0) hR fun bits => ?_
  split
  · exact readsSize_fail _
  · exact readsSize_done hR _

/-- A number of fixed width takes its width. -/
theorem number_of_byteWidth? (hR : SizeOrder R) {format : NumberFormat} {width : Nat}
    (h : format.byteWidth? = some width) : (Codec.number format).Measures R width where
  writes value bytes hbytes := by
    have hwrite : Writes (writeNumber format value) bytes := hbytes
    have hlength : bytes.length = width := by
      cases format <;> cases h
      case u8 | u16 | u32 | u64 | u128 =>
        obtain ⟨n, -, -, rfl⟩ := writes_unsigned_iff.mp hwrite
        exact length_littleEndian _ n
      case i8 | i16 | i32 | i64 | i128 =>
        obtain ⟨i, -, -, -, rfl⟩ := writes_signed_iff.mp hwrite
        exact length_littleEndian _ _
      case f32 | f64 =>
        obtain ⟨x, -, -, rfl⟩ := writes_float_iff.mp hwrite
        exact length_littleEndian _ _
    rw [hlength]
    exact hR.refl width
  reads := by
    show ReadsSize R (readNumber format) width
    cases format <;> cases h
    case f32 | f64 => exact readsSize_readFloat hR _ _ _ _
    all_goals exact (readsSize_takeNumber hR _ _).map hR

theorem length_shortBytes_le {more : Nat} : ∀ {n : Nat}, n < Nat.pow 128 (more + 1) →
    (shortBytes n).length ≤ more + 1 := by
  -- Each group of seven bits divides the bound by 128.
  induction more with
  | zero =>
    intro n hn
    rw [shortBytes, if_pos hn]
    exact Nat.le_refl 1
  | succ more ih =>
    intro n hn
    rw [shortBytes]
    split
    · exact Nat.succ_le_succ (Nat.zero_le _)
    · refine Nat.succ_le_succ (ih (Nat.div_lt_of_lt_mul ?_))
      rwa [Nat.mul_comm]

theorem readsSize_readShort (more : Nat) : ∀ place value : Nat,
    ReadsSize (· ≤ ·) (readShort place value more) more := by
  induction more with
  | zero => exact fun _ _ => readsSize_fail _
  | succ more ih =>
    intro place value
    have hgroups : ReadsSize (· ≤ ·) (readShort place value (more + 1)) (1 + more) := by
      refine (readsSize_take sizeOrder_le 1 "shortU16").bind sizeOrder_le fun bytes => ?_
      dsimp only
      split
      -- The last group leaves out the groups that might have followed.
      · intro input a rest hread
        obtain ⟨-, rfl⟩ := Prod.mk.inj hread
        exact ⟨[], rfl, Nat.zero_le more⟩
      · exact ih _ _
    rwa [Nat.add_comm 1 more] at hgroups

/-- No number takes more than the greatest width of its format. -/
theorem number_maxWidth (format : NumberFormat) :
    (Codec.number format).Measures (· ≤ ·) format.maxWidth := by
  cases hwidth : format.byteWidth? with
  | some width =>
    rw [format.maxWidth_of_byteWidth? hwidth]
    exact number_of_byteWidth? sizeOrder_le hwidth
  | none =>
    -- Only the short format has no fixed width; 16 bits are at most three groups of seven.
    obtain rfl : format = .shortU16 := by
      cases format
      case shortU16 => rfl
      all_goals cases hwidth
    refine ⟨fun value bytes hbytes => ?_, readsSize_readShort 3 0 0⟩
    obtain ⟨n, -, hn, rfl⟩ := writes_short_iff.mp hbytes
    have hgroups : n < Nat.pow 128 (2 + 1) := Nat.lt_of_lt_of_le hn (by decide)
    exact length_shortBytes_le hgroups

/-! ### Texts, bytes and addresses -/

theorem boolean {format : NumberFormat} (hR : SizeOrder R)
    (h : (Codec.number format).Measures R n) : (Codec.boolean format).Measures R n where
  writes value bytes hbytes := by
    obtain ⟨flag, -, hflag⟩ := writes_boolean_iff.mp hbytes
    exact h.writes (.unsigned flag.toNat) bytes hflag
  reads := by
    rw [read_boolean]
    refine h.reads.bind (n := 0) hR fun value => ?_
    split
    · exact readsSize_done hR _
    · exact readsSize_done hR _
    · exact readsSize_fail _

theorem bytes (hR : SizeOrder R) (size : Nat) : (Codec.bytes (.fixed size)).Measures R size where
  writes value bytes hbytes := by
    obtain ⟨data, -, hdata⟩ := writes_bytes_iff.mp hbytes
    obtain ⟨rfl, rfl⟩ := writes_fixedBytes_iff.mp hdata
    exact hR.refl _
  reads := by
    rw [read_bytes]
    exact (readsSize_take hR size "bytes").map hR

theorem string (hR : SizeOrder R) (size : Nat) : (Codec.string (.fixed size)).Measures R size where
  writes value bytes hbytes := by
    obtain ⟨text, -, htext⟩ := writes_string_iff.mp hbytes
    obtain ⟨rfl, rfl⟩ := writes_fixedBytes_iff.mp htext
    exact hR.refl _
  reads := by
    rw [read_string]
    refine (readsSize_take hR size "string").bind (n := 0) hR fun part => ?_
    split
    · exact readsSize_done hR _
    · exact readsSize_fail _

theorem publicKey (hR : SizeOrder R) : Codec.publicKey.Measures R 32 where
  writes value bytes hbytes := by
    obtain ⟨address, -, rfl⟩ := writes_publicKey_iff.mp hbytes
    rw [address.length_bytes]
    exact hR.refl 32
  reads := by
    rw [read_publicKey]
    refine ReadsSize.map hR fun input address rest hread => ?_
    unfold takeAddress at hread
    split at hread
    · rename_i hlength
      obtain ⟨-, rfl⟩ := Prod.mk.inj hread
      exact exists_taken hR hlength
    · cases hread

/-! ### Options, lists and maps -/

/-- An option measures its flag and its item. What an absent value is filled up with has to compare
with the size of the item. -/
theorem option {item : Codec} {flag : NumberFormat} {isFixed : Bool} (hR : SizeOrder R)
    (hflag : (Codec.number flag).Measures R m) (hitem : item.Measures R n)
    (habsent : ∀ size, item.padding? isFixed = some size → R size n) :
    (Codec.option item flag isFixed).Measures R (m + n) where
  writes value bytes hbytes := by
    rcases writes_option_iff.mp hbytes with ⟨inner, -, front, back, hfront, hback, rfl⟩ |
      ⟨-, front, size, hfront, hsize, rfl⟩
    · rw [List.length_append]
      exact hR.add (hflag.writes (.unsigned 1) front hfront) (hitem.writes inner back hback)
    · rw [List.length_append, List.length_replicate]
      exact hR.add (hflag.writes (.unsigned 0) front hfront) (habsent size hsize)
  reads := by
    rw [read_option]
    refine hflag.reads.bind hR fun value => ?_
    split
    · -- Behind the flag of an absent value only the gap is read.
      have hgap : ∀ size, item.padding? isFixed = some size → ∀ {read : Step Value},
          ReadsSize (· = ·) read size → ReadsSize R read n := by
        intro size hsize read hread input value rest hok
        obtain ⟨taken, hinput, rfl⟩ := hread input value rest hok
        exact ⟨taken, hinput, habsent _ hsize⟩
      cases isFixed with
      | false => exact hgap 0 rfl (readsSize_done sizeOrder_eq _)
      | true =>
        cases hsize : item.fixedSize? with
        | none => exact readsSize_fail _
        | some size =>
          exact hgap size hsize ((readsSize_take sizeOrder_eq size "fixed option").map sizeOrder_eq)
    · exact hitem.reads.map hR
    · exact readsSize_fail _

theorem list {item : Codec} (hR : SizeOrder R) (h : item.Measures R n) (count : Nat) :
    (Codec.list item (.fixed count)).Measures R (n * count) where
  writes value bytes hbytes := by
    obtain ⟨items, front, back, -, hfront, hback, rfl⟩ := writes_list_iff.mp hbytes
    obtain ⟨rfl, rfl⟩ := writes_fixedCount_iff.mp hfront
    exact writesSize_each hR item.write_appendsOnly h.writes items back hback
  reads := by
    rw [read_list]
    exact (readsSize_repeated hR h.reads count).map hR

theorem set {item : Codec} (hR : SizeOrder R) (h : item.Measures R n) (count : Nat) :
    (Codec.set item (.fixed count)).Measures R (n * count) :=
  congr (SameWire.set_list item (.fixed count)) (h.list hR count)

theorem typedArray {item : Codec} (hR : SizeOrder R) (h : item.Measures R n) (count : Nat) :
    (Codec.typedArray item count).Measures R (n * count) :=
  congr (SameWire.typedArray_list item count) (h.list hR count)

theorem map {key val : Codec} (hR : SizeOrder R) (hkey : key.Measures R m)
    (hval : val.Measures R n) (count : Nat) :
    (Codec.map key val (.fixed count)).Measures R ((m + n) * count) where
  writes value bytes hbytes := by
    obtain ⟨entries, front, back, -, hfront, hback, rfl⟩ := writes_map_iff.mp hbytes
    obtain ⟨rfl, rfl⟩ := writes_fixedCount_iff.mp hfront
    have hentry : ∀ entry, WritesSize R (key.writeEntry val entry) (m + n) := by
      intro entry bytes hentry
      obtain ⟨front, back, hfront, hback, rfl⟩ := writes_entry_iff.mp hentry
      rw [List.length_append]
      exact hR.add (hkey.writes entry.1 front hfront) (hval.writes entry.2 back hback)
    exact writesSize_each hR (key.writeEntry_appendsOnly val) hentry entries back hback
  reads := by
    rw [read_map]
    exact (readsSize_repeated hR (hkey.reads.bind hR fun _ => hval.reads.map hR) count).map hR

theorem fixedSize (hR : SizeOrder R) (inner : Codec) (size : Nat) :
    (Codec.fixedSize inner size).Measures R size where
  writes value bytes hbytes := by
    obtain ⟨-, rfl⟩ := writes_fixedSize_iff.mp hbytes
    exact hR.refl _
  reads := by
    rw [read_fixedSize]
    exact (readsSize_take hR size "fixed size").bind (n := 0) hR fun part =>
      readsSize_within hR part inner.read

end Measures

/-! ### Parts in a row -/

/-- Codecs in a row measure the sum of what they measure. -/
inductive RowMeasures (R : Nat → Nat → Prop) : List Codec → Nat → Prop
  | nil : RowMeasures R [] 0
  | cons {item : Codec} {items : List Codec} {m n : Nat} (hitem : item.Measures R m)
      (hitems : RowMeasures R items n) : RowMeasures R (item :: items) (m + n)

namespace RowMeasures

/-- The sizes of codecs in a row are added up. -/
theorem of_rowSize? {size? : Codec → Option Nat} : ∀ {items : List Codec} {n : Nat},
    (∀ item ∈ items, ∀ m, size? item = some m → item.Measures R m) →
      rowSize? (items.map size?) = some n → RowMeasures R items n
  | [], n, _, h => by
    obtain rfl := Option.some.inj h
    exact .nil
  | item :: items, n, hitems, h => by
    obtain ⟨m, k, hm, hk, rfl, -⟩ := rowSize?_cons_eq_some_iff.mp h
    have hrest := of_rowSize? (fun item hitem => hitems item (List.mem_cons_of_mem _ hitem)) hk
    exact .cons (hitems item List.mem_cons_self m hm) hrest

variable {items : List Codec}

theorem writesSize_items (hR : SizeOrder R) (h : RowMeasures R items n) :
    ∀ {values : List Value}, items.length = values.length →
      WritesSize R (writeItems items values) n := by
  induction h with
  | nil =>
    intro values _ bytes hbytes
    obtain rfl := writes_done_iff.mp hbytes
    exact hR.refl 0
  | cons hitem _ ih =>
    intro values hlength bytes hbytes
    cases values with
    | nil => cases hlength
    | cons value values =>
      obtain ⟨front, back, hfront, hback, rfl⟩ := writes_items_cons_iff.mp hbytes
      rw [List.length_append]
      exact hR.add (hitem.writes value front hfront) (ih (Nat.succ.inj hlength) back hback)

theorem readsSize_items (hR : SizeOrder R) (h : RowMeasures R items n) :
    ReadsSize R (readItems items) n := by
  induction h with
  | nil => exact readsSize_done hR []
  | cons hitem _ ih =>
    rw [readItems_cons]
    exact hitem.reads.bind hR fun _ => ih.map hR

/-- Fields may be given in any order, and each takes the size of its codec. -/
theorem writesSize_fields (hR : SizeOrder R) (values : List (String × Value)) :
    ∀ {fields : List FieldCodec} {n : Nat}, RowMeasures R (fields.map FieldCodec.codec) n →
      WritesSize R (writeFields fields values) n
  | [], _, .nil => by
    intro bytes hbytes
    obtain rfl := writes_done_iff.mp hbytes
    exact hR.refl 0
  | ⟨name, codec⟩ :: fields, _, .cons hitem hitems => by
    intro bytes hbytes
    obtain ⟨value, -, front, back, hfront, hback, rfl⟩ := writes_fields_cons_iff.mp hbytes
    rw [List.length_append]
    exact hR.add (hitem.writes value front hfront)
      (writesSize_fields hR values hitems back hback)

theorem readsSize_fields (hR : SizeOrder R) : ∀ {fields : List FieldCodec} {n : Nat},
    RowMeasures R (fields.map FieldCodec.codec) n → ReadsSize R (readFields fields) n
  | [], _, .nil => readsSize_done hR []
  | ⟨name, codec⟩ :: fields, _, .cons hitem hitems => by
    rw [readFields_cons]
    exact hitem.reads.bind hR fun _ => (readsSize_fields hR hitems).map hR

theorem writesSize_payload (hR : SizeOrder R) {payload : Payload} {values : List Value}
    (h : RowMeasures R payload.codecs n) (hlength : values.length = payload.arity) :
    WritesSize R (payload.write values) n := by
  cases payload with
  | empty =>
    cases h
    intro bytes hbytes
    obtain rfl := writes_done_iff.mp hbytes
    exact hR.refl 0
  | tuple items => exact h.writesSize_items hR hlength.symm
  | struct fields => exact writesSize_fields hR _ h

end RowMeasures

/-- No payload is read for an index without a variant. -/
theorem readVariant_eq_fail {name : String} {index : Nat} :
    ∀ {variants : List VariantCodec} {position : Nat}, variants[position]? = none →
      readVariant name index variants position = fail (.noVariant name index)
  | [], _, _ => rfl
  | ⟨_, _, _⟩ :: variants, position + 1, h => by
    have hrest : readVariant name index variants position = _ := readVariant_eq_fail h
    exact hrest

namespace Measures

theorem tuple {items : List Codec} (hR : SizeOrder R) (h : RowMeasures R items n) :
    (Codec.tuple items).Measures R n where
  writes value bytes hbytes := by
    obtain ⟨values, -, hlength, hitems⟩ := writes_tuple_iff.mp hbytes
    exact h.writesSize_items hR hlength bytes hitems
  reads := by
    rw [read_tuple]
    exact (h.readsSize_items hR).map hR

theorem struct {fields : List FieldCodec} (hR : SizeOrder R) (name : String)
    (h : RowMeasures R (fields.map FieldCodec.codec) n) :
    (Codec.struct name fields).Measures R n where
  writes value bytes hbytes := by
    obtain ⟨values, -, hfields⟩ := writes_struct_iff.mp hbytes
    exact RowMeasures.writesSize_fields hR values h bytes hfields
  reads := by
    rw [read_struct]
    exact (RowMeasures.readsSize_fields hR h).map hR

/-- An enum measures its index and what every payload measures. -/
theorem enum {size : NumberFormat} {variants : List VariantCodec} (hR : SizeOrder R)
    (name : String) (hsize : (Codec.number size).Measures R m)
    (hvariants : ∀ variant ∈ variants, ∃ k, RowMeasures R variant.payload.codecs k ∧
      ∀ a, R a k → R a n) :
    (Codec.enum name size variants).Measures R (m + n) where
  writes value bytes hbytes := by
    obtain ⟨index, values, -, hvariant⟩ := writes_enum_iff.mp hbytes
    obtain ⟨variant, hget, harity, front, back, hfront, hback, rfl⟩ :=
      writes_variant_iff.mp hvariant
    obtain ⟨k, hrow, hk⟩ := hvariants variant (List.mem_of_getElem? hget)
    rw [List.length_append]
    exact hR.add (hsize.writes _ front hfront)
      (hk back.length (hrow.writesSize_payload hR harity back hback))
  reads := by
    rw [read_enum]
    have hindex : ReadsSize R (readSize size (.invalidVariant name)) m :=
      hsize.reads.bind (n := 0) hR fun _ => readsSize_ofOption hR _ _
    refine hindex.bind hR fun index => ReadsSize.map hR ?_
    cases hget : variants[index]? with
    | none =>
      rw [readVariant_eq_fail hget]
      exact readsSize_fail _
    | some variant =>
      obtain ⟨k, hrow, hk⟩ := hvariants variant (List.mem_of_getElem? hget)
      rw [readVariant_eq hget]
      intro input values rest hread
      obtain ⟨taken, hinput, htaken⟩ := hrow.readsSize_items hR input values rest hread
      exact ⟨taken, hinput, hk taken.length htaken⟩

end Measures

end Codec

end DartClient
