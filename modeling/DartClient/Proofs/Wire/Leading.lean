import DartClient.Proofs.Codec.Parts
import DartClient.Proofs.Wire.Encoding
import DartClient.Proofs.Wire.Number

/-!
# What stands in front of a field

The content of a field that is a number or bytes stands behind the fields before it, behind the
size in front of the struct, and behind the size or length in front of the field itself. Only a
first field without any of these stands at the very beginning.

## Main definitions

* `Codec.Leads`: the bytes in front of the content of a field.
* `Codec.Bare`: codecs that begin with the content of a field.

## Main results

* `Codec.exists_leads_of_integer`, `Codec.exists_leads_of_bytes`: an integer or bytes stand behind
  their lead.
* `Codec.exists_leads_of_struct`: a field stands behind its lead.
* `Codec.Bare.lead_eq_nil`: nothing stands in front of a first field without sizes.
-/

namespace DartClient

open Step

/-- The integer that a value is, if it is one. -/
def Value.integer? : Value → Option Int
  | .unsigned n => some n
  | .signed i => some i
  | _ => none

namespace Codec

/-- The bytes in front of the content of a field, or in front of a content that stands alone. -/
inductive Leads (name : String) : Codec → Value → List UInt8 → Prop
  | number (format : Idl.NumberFormat) (value : Value) : Leads name (.number format) value []
  | fixedBytes (size : Nat) (value : Value) : Leads name (.bytes (.fixed size)) value []
  | remainderBytes (value : Value) : Leads name (.bytes .remainder) value []
  /-- The length of bytes. -/
  | prefixedBytes {width : Idl.NumberFormat} {data front : List UInt8}
      (hfront : Writes (writeNumber width (.unsigned data.length)) front) :
      Leads name (.bytes (.prefixed width)) (.bytes data) front
  | fixedSize {inner : Codec} {value : Value} {lead : List UInt8} (size : Nat)
      (h : Leads name inner value lead) : Leads name (.fixedSize inner size) value lead
  /-- The size of everything behind it. -/
  | sizePrefixed {inner : Codec} {width : Idl.NumberFormat} {value : Value}
      {part front lead : List UInt8} (hpart : Writes (inner.write value) part)
      (hfront : Writes (writeNumber width (.unsigned part.length)) front)
      (h : Leads name inner value lead) :
      Leads name (.sizePrefixed inner width) value (front ++ lead)
  /-- The fields before the field. -/
  | field {struct : String} {before after : List FieldCodec} {codec : Codec}
      {values : List (String × Value)} {value : Value} {earlier lead : List UInt8}
      (hname : name ∉ before.map FieldCodec.name) (hvalue : values.lookup name = some value)
      (hearlier : Writes (writeFields before values) earlier) (h : Leads name codec value lead) :
      Leads name (.struct struct (before ++ ⟨name, codec⟩ :: after)) (.struct values)
        (earlier ++ lead)

/-- The codec begins with the content of the field, which is its first one, without a size or length
in front of it. -/
inductive Bare (name : String) : Codec → Prop
  | number (format : Idl.NumberFormat) : Bare name (.number format)
  | fixedBytes (size : Nat) : Bare name (.bytes (.fixed size))
  | remainderBytes : Bare name (.bytes .remainder)
  | fixedSize {inner : Codec} (size : Nat) (h : Bare name inner) : Bare name (.fixedSize inner size)
  | field (struct : String) {codec : Codec} (after : List FieldCodec) (h : Bare name codec) :
      Bare name (.struct struct (⟨name, codec⟩ :: after))

variable {name : String} {codec : Codec} {value : Value} {i : Int} {bytes : List UInt8}

/-- **Nothing stands in front of a first field** without sizes and lengths. -/
theorem Bare.lead_eq_nil (hbare : codec.Bare name) : ∀ {value lead},
    codec.Leads name value lead → lead = [] := by
  induction hbare with
  | number | fixedBytes | remainderBytes =>
    intro value lead h
    cases h
    rfl
  | fixedSize size _ ih =>
    intro value lead h
    cases h with
    | fixedSize _ h => exact ih h
  | @field struct codec after _ ih =>
    intro value lead h
    generalize hcodec : Codec.struct struct (⟨name, codec⟩ :: after) = whole at h
    cases h with
    | @field _ before after' codec' values value earlier lead hname _ hearlier h =>
      obtain ⟨-, hfields⟩ := Codec.struct.inj hcodec
      -- The fields before the field do not have its name, so there are none.
      cases before with
      | nil =>
        obtain ⟨hfield, -⟩ := List.cons.inj hfields
        obtain ⟨-, rfl⟩ := FieldCodec.mk.inj hfield
        obtain rfl := writes_done_iff.mp hearlier
        exact ih h
      | cons head before =>
        obtain ⟨rfl, -⟩ := List.cons.inj hfields
        exact absurd List.mem_cons_self hname
    | _ => cases hcodec

/-! ## Contents -/

/-- Only numbers and sizes around them take integers. -/
theorem eq_of_writes_integer (hvalue : value.integer? = some i)
    (h : Writes (codec.write value) bytes) :
    (∃ format, codec = .number format) ∨ (∃ inner size, codec = .fixedSize inner size) ∨
      ∃ inner width, codec = .sizePrefixed inner width := by
  cases value
  case unsigned | signed => cases codec <;> simp [Codec.write] at h ⊢
  all_goals cases hvalue

theorem not_writes_number_bytes {format : Idl.NumberFormat} {data : List UInt8} :
    ¬ Writes (writeNumber format (.bytes data)) bytes := by
  cases format <;> simp [writeNumber, writes_unsigned_iff, writes_signed_iff, writes_float_iff,
    writes_short_iff, Value.unsigned?, Value.signed?]

/-- Only bytes and sizes around them take bytes. -/
theorem eq_of_writes_bytes {data : List UInt8} (h : Writes (codec.write (.bytes data)) bytes) :
    (∃ length, codec = .bytes length) ∨ (∃ inner size, codec = .fixedSize inner size) ∨
      ∃ inner width, codec = .sizePrefixed inner width := by
  cases codec <;> simp [Codec.write, not_writes_number_bytes] at h ⊢

/-- **An integer stands behind its lead**, as a number of some format. -/
theorem exists_leads_of_integer (name : String) (hvalue : value.integer? = some i) : ∀ {bytes},
    Writes (codec.write value) bytes → ∃ lead format content, codec.Leads name value lead ∧
      Writes (writeNumber format value) content ∧ bytes = lead ++ content := by
  -- Sizes around the number are taken off one by one.
  induction codec using induction_parts with
  | step codec ih =>
    intro bytes h
    rcases eq_of_writes_integer hvalue h with
      ⟨format, rfl⟩ | ⟨inner, size, rfl⟩ | ⟨inner, width, rfl⟩
    · exact ⟨[], format, bytes, .number format value, h, rfl⟩
    · obtain ⟨hinner, -⟩ := writes_fixedSize_iff.mp h
      obtain ⟨lead, format, content, hleads, hcontent, rfl⟩ := ih inner List.mem_cons_self hinner
      exact ⟨lead, format, content, .fixedSize size hleads, hcontent, rfl⟩
    · obtain ⟨front, part, hpart, hfront, rfl⟩ := writes_sizePrefixed_iff.mp h
      obtain ⟨lead, format, content, hleads, hcontent, rfl⟩ := ih inner List.mem_cons_self hpart
      exact ⟨front ++ lead, format, content, .sizePrefixed hpart hfront hleads, hcontent,
        (List.append_assoc front lead content).symm⟩

/-- **Bytes stand behind their lead.** -/
theorem exists_leads_of_bytes (name : String) {data : List UInt8} : ∀ {bytes},
    Writes (codec.write (.bytes data)) bytes →
      ∃ lead, codec.Leads name (.bytes data) lead ∧ bytes = lead ++ data := by
  induction codec using induction_parts with
  | step codec ih =>
    intro bytes h
    rcases eq_of_writes_bytes h with ⟨length, rfl⟩ | ⟨inner, size, rfl⟩ | ⟨inner, width, rfl⟩
    · obtain ⟨_, heq, hdata⟩ := writes_bytes_iff.mp h
      obtain rfl := Value.bytes.inj heq
      cases length with
      | fixed size =>
        obtain ⟨-, rfl⟩ := writes_fixedBytes_iff.mp hdata
        exact ⟨[], .fixedBytes size _, rfl⟩
      | remainder =>
        obtain rfl := writes_remainderBytes_iff.mp hdata
        exact ⟨[], .remainderBytes _, rfl⟩
      | prefixed width =>
        obtain ⟨front, hfront, rfl⟩ := writes_prefixedBytes_iff.mp hdata
        exact ⟨front, .prefixedBytes hfront, rfl⟩
    · obtain ⟨hinner, -⟩ := writes_fixedSize_iff.mp h
      obtain ⟨lead, hleads, rfl⟩ := ih inner List.mem_cons_self hinner
      exact ⟨lead, .fixedSize size hleads, rfl⟩
    · obtain ⟨front, part, hpart, hfront, rfl⟩ := writes_sizePrefixed_iff.mp h
      obtain ⟨lead, hleads, rfl⟩ := ih inner List.mem_cons_self hpart
      exact ⟨front ++ lead, .sizePrefixed hpart hfront hleads,
        (List.append_assoc front lead data).symm⟩

end Codec

/-! ## Numbers of one byte -/

variable {n : Nat}

theorem littleEndian_one (h : n < 256) : littleEndian 1 n = [UInt8.ofNat n] := by
  rw [littleEndian, Nat.mod_eq_of_lt h]
  rfl

theorem littleEndian_append (width : Nat) (hwidth : 0 < width) :
    ∃ rest, littleEndian width n = littleEndian 1 n ++ rest := by
  obtain ⟨more, rfl⟩ : ∃ more, width = more + 1 := ⟨width - 1, by omega⟩
  exact ⟨littleEndian more (n / 256), rfl⟩

theorem shortBytes_append (h : n < 256) : ∃ rest, shortBytes n = littleEndian 1 n ++ rest := by
  rw [littleEndian_one h]
  -- From 128 on the mark of the first group restores the low byte.
  by_cases hlow : n < 128
  · refine ⟨[], ?_⟩
    rw [shortBytes, if_pos hlow]
    rfl
  · refine ⟨shortBytes (n / 128), ?_⟩
    rw [shortBytes, if_neg hlow, show n % 128 + 128 = n by omega]
    rfl

theorem twosComplement_natCast {width : Nat} (h : n < Nat.pow 2 (8 * width)) :
    twosComplement width n = n := by
  unfold twosComplement
  rw [Int.emod_eq_of_lt (by omega) (by exact_mod_cast h)]
  exact Int.toNat_natCast n

theorem eq_of_signed?_of_unsigned? {value : Value} {i : Int} (hn : value.unsigned? = some n)
    (hi : value.signed? = some i) : i = n := by
  cases value
  case unsigned m =>
    obtain rfl := Option.some.inj hn
    rw [Value.signed?] at hi
    split at hi
    · exact (Option.some.inj hi).symm
    · cases hi
  case signed j =>
    obtain rfl := Option.some.inj hi
    -- A negative integer is none without sign.
    cases j with
    | ofNat m =>
      obtain rfl := Option.some.inj hn
      rfl
    | negSucc m => cases hn
  all_goals cases hn

/-- A number of one byte is the first byte of the same number in every other format. -/
theorem exists_append_of_writes_u8 {format : Idl.NumberFormat} {value : Value}
    {front content : List UInt8} (h : Writes (writeNumber .u8 value) front)
    (hcontent : Writes (writeNumber format value) content) : ∃ rest, content = front ++ rest := by
  rw [writeNumber, writes_unsigned_iff] at h
  obtain ⟨n, hn, hlt, rfl⟩ := h
  have hbyte : n < 256 := hlt
  cases format
  case u8 | u16 | u32 | u64 | u128 =>
    rw [writeNumber, writes_unsigned_iff] at hcontent
    obtain ⟨_, hm, -, rfl⟩ := hcontent
    obtain rfl := Option.some.inj (hn.symm.trans hm)
    exact littleEndian_append _ (by decide)
  case i8 | i16 | i32 | i64 | i128 =>
    rw [writeNumber, writes_signed_iff] at hcontent
    obtain ⟨i, hi, -, -, rfl⟩ := hcontent
    obtain rfl := eq_of_signed?_of_unsigned? hn hi
    rw [twosComplement_natCast (Nat.lt_of_lt_of_le hbyte (by decide))]
    exact littleEndian_append _ (by decide)
  case f32 | f64 =>
    rw [writeNumber, writes_float_iff] at hcontent
    obtain ⟨x, rfl, -, -⟩ := hcontent
    cases hn
  case shortU16 =>
    rw [writeNumber, writes_short_iff] at hcontent
    obtain ⟨_, hm, -, rfl⟩ := hcontent
    obtain rfl := Option.some.inj (hn.symm.trans hm)
    exact shortBytes_append hbyte

/-- An integer without sign is written like the same integer with a sign. -/
theorem writes_unsigned_iff_signed {format : Idl.NumberFormat} {bytes : List UInt8} :
    Writes (writeNumber format (.unsigned n)) bytes ↔
      Writes (writeNumber format (.signed n)) bytes := by
  cases format
  case u8 | u16 | u32 | u64 | u128 | shortU16 => exact Iff.rfl
  case f32 | f64 => simp [writeNumber, writes_float_iff]
  case i8 | i16 | i32 | i64 | i128 =>
    rw [writeNumber, writeNumber, writes_signed_iff, writes_signed_iff]
    constructor
    · rintro ⟨i, hi, hbounds⟩
      obtain rfl := eq_of_signed?_of_unsigned? rfl hi
      exact ⟨_, rfl, hbounds⟩
    · rintro ⟨i, hi, hlow, hhigh, hbytes⟩
      obtain rfl := Option.some.inj hi
      refine ⟨_, ?_, hlow, hhigh, hbytes⟩
      -- No signed format goes beyond the integers of 128 bits.
      have hbound : n < Nat.pow 2 127 :=
        Nat.lt_of_lt_of_le (Int.ofNat_lt.mp hhigh) (by decide)
      rw [Value.signed?, if_pos hbound]

/-- Values that are the same integer are written alike. -/
theorem writes_number_congr {format : Idl.NumberFormat} {value value' : Value} {i : Int}
    {bytes : List UInt8} (h : value.integer? = some i) (h' : value'.integer? = some i) :
    Writes (writeNumber format value) bytes ↔ Writes (writeNumber format value') bytes := by
  cases value
  case unsigned n =>
    obtain rfl := Option.some.inj h
    cases value'
    case unsigned m =>
      obtain rfl := Int.ofNat.inj (Option.some.inj h')
      exact Iff.rfl
    case signed j =>
      obtain rfl := Option.some.inj h'
      exact writes_unsigned_iff_signed
    all_goals cases h'
  case signed j =>
    obtain rfl := Option.some.inj h
    cases value'
    case unsigned m =>
      obtain rfl := Option.some.inj h'
      exact writes_unsigned_iff_signed.symm
    case signed j =>
      obtain rfl := Option.some.inj h'
      exact Iff.rfl
    all_goals cases h'
  all_goals cases h

/-! ## Fields in a row -/

/-- Fields in a row are written one part behind the other. -/
theorem writes_fields_append_iff {before after : List FieldCodec} {values : List (String × Value)} :
    ∀ {bytes}, Writes (writeFields (before ++ after) values) bytes ↔ ∃ front back,
      Writes (writeFields before values) front ∧ Writes (writeFields after values) back ∧
        bytes = front ++ back := by
  induction before with
  | nil =>
    intro bytes
    constructor
    · exact fun h => ⟨[], bytes, writes_done_iff.mpr rfl, h, rfl⟩
    · rintro ⟨front, back, hfront, hback, rfl⟩
      obtain rfl := writes_done_iff.mp hfront
      exact hback
  | cons head before ih =>
    intro bytes
    obtain ⟨name, codec⟩ := head
    rw [List.cons_append, writes_fields_cons_iff]
    constructor
    · rintro ⟨value, hvalue, first, rest, hfirst, hrest, rfl⟩
      obtain ⟨front, back, hfront, hback, rfl⟩ := ih.mp hrest
      exact ⟨first ++ front, back, writes_fields_cons_iff.mpr
        ⟨value, hvalue, first, front, hfirst, hfront, rfl⟩, hback,
        (List.append_assoc first front back).symm⟩
    · rintro ⟨front, back, hfront, hback, rfl⟩
      obtain ⟨value, hvalue, first, rest, hfirst, hrest, rfl⟩ := writes_fields_cons_iff.mp hfront
      exact ⟨value, hvalue, first, rest ++ back, hfirst, ih.mpr ⟨rest, back, hrest, hback, rfl⟩,
        List.append_assoc first rest back⟩

end DartClient
