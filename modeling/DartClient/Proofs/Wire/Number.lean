import DartClient.Proofs.Number.Exact
import DartClient.Proofs.Wire.Reading
import DartClient.Proofs.Wire.Writing

/-!
# Numbers survive the wire

The bytes of a number are read back as that number, whatever follows them. The sort of an integer
is not written, so it is the format that tells whether it comes back with a sign or without.

## Main definitions

* `canonicalNumber`: the value that comes back.

## Main results

* `reads_number`: a number is read back from its bytes, in each format.
* `writes_canonicalNumber`: the number read back has the same bytes.
* `reads_size`: a number of items or bytes is read back as a size.
-/

namespace DartClient

open Idl (NumberFormat)
open Number (Double)
open Step

/-! ## Natural numbers as bytes -/

@[simp] theorem length_littleEndian (width n : Nat) : (littleEndian width n).length = width := by
  induction width generalizing n with
  | zero => rfl
  | succ width ih => simp [littleEndian, ih]

theorem pow_two_byte (width : Nat) : Nat.pow 2 (8 * (width + 1)) = 256 * Nat.pow 2 (8 * width) := by
  rw [Nat.mul_succ, Nat.add_comm]
  exact Nat.pow_add 2 8 (8 * width)

theorem ofLittleEndian_littleEndian {width n : Nat} (h : n < Nat.pow 2 (8 * width)) :
    ofLittleEndian (littleEndian width n) = n := by
  induction width generalizing n with
  | zero =>
    have hn : n < 1 := h
    simp only [littleEndian, ofLittleEndian]
    omega
  | succ width ih =>
    rw [pow_two_byte] at h
    have hrest := ih (Nat.div_lt_of_lt_mul h)
    simp only [littleEndian, ofLittleEndian, hrest, UInt8.toNat_ofNat']
    omega

/-- The bytes of a number are the only ones of their width that stand for it. -/
theorem littleEndian_ofLittleEndian (bytes : List UInt8) :
    littleEndian bytes.length (ofLittleEndian bytes) = bytes := by
  induction bytes with
  | nil => rfl
  | cons b bytes ih =>
    have hb := b.toNat_lt
    have hlow : (b.toNat + 256 * ofLittleEndian bytes) % 256 = b.toNat := by omega
    have hhigh : (b.toNat + 256 * ofLittleEndian bytes) / 256 = ofLittleEndian bytes := by omega
    rw [ofLittleEndian, List.length_cons, littleEndian, hlow, hhigh, ih, UInt8.ofNat_toNat]

theorem ofLittleEndian_lt (bytes : List UInt8) :
    ofLittleEndian bytes < Nat.pow 2 (8 * bytes.length) := by
  induction bytes with
  | nil => exact Nat.one_pos
  | cons b bytes ih =>
    have hb := b.toNat_lt
    rw [ofLittleEndian, List.length_cons, pow_two_byte]
    omega

theorem reads_takeNumber (format : NumberFormat) {width n : Nat} (h : n < Nat.pow 2 (8 * width)) :
    Reads (takeNumber format width) (littleEndian width n) n := by
  intro rest
  have hlen := length_littleEndian width n
  unfold takeNumber
  rw [if_neg (by simp [hlen])]
  rw [show (littleEndian width n ++ rest).take width = littleEndian width n by
      rw [List.take_left' hlen],
    show (littleEndian width n ++ rest).drop width = rest by rw [List.drop_left' hlen]]
  rw [ofLittleEndian_littleEndian h]

/-! ## Two's complement -/

theorem pow_two_half {width : Nat} (h : 0 < width) :
    Nat.pow 2 (8 * width) = 2 * Nat.pow 2 (8 * width - 1) := by
  obtain ⟨bits, hbits⟩ : ∃ bits, 8 * width = bits + 1 := ⟨8 * width - 1, by omega⟩
  rw [hbits, Nat.add_sub_cancel]
  exact Nat.pow_succ'

variable {width : Nat} {i : Int}

theorem twosComplement_lt (width : Nat) (i : Int) :
    twosComplement width i < Nat.pow 2 (8 * width) := by
  have hpos : 0 < Nat.pow 2 (8 * width) := Nat.pow_pos (by decide)
  unfold twosComplement
  generalize Nat.pow 2 (8 * width) = modulus at *
  have h₁ := Int.emod_nonneg i (b := (modulus : Int)) (by omega)
  have h₂ := Int.emod_lt_of_pos i (b := (modulus : Int)) (by omega)
  omega

/-- An integer within the bounds of its width is recovered from its two's complement. -/
theorem ofTwosComplement_twosComplement (hw : 0 < width)
    (hlow : -(Nat.pow 2 (8 * width - 1) : Int) ≤ i)
    (hhigh : i < (Nat.pow 2 (8 * width - 1) : Int)) :
    ofTwosComplement width (twosComplement width i) = i := by
  unfold ofTwosComplement twosComplement
  rw [pow_two_half hw]
  generalize Nat.pow 2 (8 * width - 1) = half at *
  -- A negative integer is moved up by the modulus, and back again.
  rcases Int.lt_or_le i 0 with hi | hi
  · have hmod : i % ((2 * half : Nat) : Int) = i + (2 * half : Nat) := by
      rw [← Int.add_emod_right, Int.emod_eq_of_lt (by omega) (by omega)]
    rw [hmod]
    split <;> omega
  · rw [Int.emod_eq_of_lt hi (by omega)]
    split <;> omega

/-- A number of its width stands for an integer within the bounds of the width, and is the two's
complement of that integer. -/
theorem ofTwosComplement_spec (hw : 0 < width) {n : Nat} (h : n < Nat.pow 2 (8 * width)) :
    -(Nat.pow 2 (8 * width - 1) : Int) ≤ ofTwosComplement width n ∧
      ofTwosComplement width n < (Nat.pow 2 (8 * width - 1) : Int) ∧
      twosComplement width (ofTwosComplement width n) = n := by
  unfold ofTwosComplement twosComplement
  rw [pow_two_half hw] at *
  generalize Nat.pow 2 (8 * width - 1) = half at *
  split
  · have hmod : (n : Int) % ((2 * half : Nat) : Int) = n := Int.emod_eq_of_lt (by omega) (by omega)
    rw [hmod]
    omega
  · -- The upper half stands for the negative integers.
    have hmod : ((n : Int) - ((2 * half : Nat) : Int)) % ((2 * half : Nat) : Int) = n := by
      rw [Int.sub_emod_right, Int.emod_eq_of_lt (by omega) (by omega)]
    rw [hmod]
    omega

/-! ## Short integers -/

/-- A short integer is read group by group. -/
theorem readShort_cons (place value more : Nat) (b : UInt8) (rest : List UInt8) :
    readShort place value (more + 1) (b :: rest) =
      if b < 128 then (.ok (.unsigned (value + b.toNat % 128 * Nat.pow 128 place)), rest)
      else readShort (place + 1) (value + b.toNat % 128 * Nat.pow 128 place) more rest := by
  have htake : take 1 "shortU16" (b :: rest) = (.ok [b], rest) := by simp [take]
  rw [readShort, bind_apply, htake]
  show (if b < 128 then pure (.unsigned (value + b.toNat % 128 * Nat.pow 128 place))
    else readShort (place + 1) (value + b.toNat % 128 * Nat.pow 128 place) more : Step Value)
    rest = _
  split <;> rfl

/-- A group without the mark is the last one. -/
theorem readShort_last {n : Nat} (h : n < 128) (place value more : Nat) (rest : List UInt8) :
    readShort place value (more + 1) (UInt8.ofNat n :: rest) =
      (.ok (.unsigned (value + n * Nat.pow 128 place)), rest) := by
  have hbyte : (UInt8.ofNat n).toNat = n := by
    rw [UInt8.toNat_ofNat']
    omega
  have hlt : UInt8.ofNat n < 128 := by
    rw [UInt8.lt_iff_toNat_lt, hbyte]
    exact h
  rw [readShort_cons, if_pos hlt, hbyte, Nat.mod_eq_of_lt h]

/-- Behind a group with the mark the next one is read, at the next place. -/
theorem readShort_group {g : Nat} (h : g < 128) (place value more : Nat) (rest : List UInt8) :
    readShort place value (more + 1) (UInt8.ofNat (g + 128) :: rest) =
      readShort (place + 1) (value + g * Nat.pow 128 place) more rest := by
  have hbyte : (UInt8.ofNat (g + 128)).toNat = g + 128 := by
    rw [UInt8.toNat_ofNat']
    omega
  have hlt : ¬ UInt8.ofNat (g + 128) < 128 := by
    rw [UInt8.lt_iff_toNat_lt, hbyte]
    exact Nat.not_lt.mpr (Nat.le_add_left _ _)
  rw [readShort_cons, if_neg hlt, hbyte, Nat.add_mod_right, Nat.mod_eq_of_lt h]

/-- The groups of a short integer are read back, if as many may follow as there are. -/
theorem reads_short {more : Nat} : ∀ {n : Nat} (place value : Nat), n < Nat.pow 128 (more + 1) →
    Reads (readShort place value (more + 1)) (shortBytes n)
      (.unsigned (value + n * Nat.pow 128 place)) := by
  -- The induction is on the number of groups that may follow.
  induction more with
  | zero =>
    intro n place value hn rest
    rw [shortBytes, if_pos hn]
    exact readShort_last hn place value 0 rest
  | succ more ih =>
    intro n place value hn rest
    rw [shortBytes]
    split
    · rename_i hlast
      exact readShort_last hlast place value (more + 1) rest
    · have hrest : n / 128 < Nat.pow 128 (more + 1) := by
        refine Nat.div_lt_of_lt_mul ?_
        rw [Nat.mul_comm]
        exact hn
      -- The first group and the rest add up to the number at their places.
      have hvalue : value + n % 128 * Nat.pow 128 place + n / 128 * Nat.pow 128 (place + 1) =
          value + n * Nat.pow 128 place := by
        rw [show Nat.pow 128 (place + 1) = 128 * Nat.pow 128 place from Nat.pow_succ',
          ← Nat.mul_assoc, Nat.add_assoc, ← Nat.add_mul]
        congr 2
        omega
      rw [List.cons_append, readShort_group (Nat.mod_lt n (by decide)), ← hvalue]
      exact ih (place + 1) _ hrest rest

/-! ## What is written -/

variable {format : NumberFormat} {value : Value} {bytes : List UInt8}

theorem writes_unsigned_iff : Writes (writeUnsigned format width value) bytes ↔
    ∃ n, value.unsigned? = some n ∧ n < Nat.pow 2 (8 * width) ∧
      bytes = littleEndian width n := by
  unfold writeUnsigned
  cases value.unsigned? with
  | none => simp
  | some n =>
    simp only [Option.some.injEq, exists_eq_left']
    by_cases h : n < Nat.pow 2 (8 * width)
    · rw [if_pos h, writes_append_iff, and_iff_right h]
    · rw [if_neg h]
      exact iff_of_false not_writes_fail fun h' => h h'.1

theorem writes_signed_iff : Writes (writeSigned format width value) bytes ↔
    ∃ i, value.signed? = some i ∧ -(Nat.pow 2 (8 * width - 1) : Int) ≤ i ∧
      i < (Nat.pow 2 (8 * width - 1) : Int) ∧
        bytes = littleEndian width (twosComplement width i) := by
  unfold writeSigned
  cases value.signed? with
  | none => simp
  | some i =>
    simp only [Option.some.injEq, exists_eq_left']
    split
    · rename_i h
      rw [writes_append_iff, and_iff_right h.1, and_iff_right h.2]
    · rename_i h
      exact iff_of_false not_writes_fail fun h' => h ⟨h'.1, h'.2.1⟩

theorem writes_float_iff {bits : Double → Nat} : Writes (writeFloat format width bits value) bytes ↔
    ∃ x, value = .float x ∧ x.isNaN = false ∧ bytes = littleEndian width (bits x) := by
  cases value
  case float x =>
    simp only [writeFloat, Value.float.injEq, exists_eq_left']
    split <;> simp_all
  all_goals simp [writeFloat]

theorem writes_short_iff : Writes (writeShort value) bytes ↔
    ∃ n, value.unsigned? = some n ∧ n < Nat.pow 2 16 ∧ bytes = shortBytes n := by
  unfold writeShort
  cases value.unsigned? with
  | none => simp
  | some n =>
    simp only [Option.some.injEq, exists_eq_left']
    by_cases h : n < Nat.pow 2 16
    · rw [if_pos h, writes_append_iff, and_iff_right h]
    · rw [if_neg h]
      exact iff_of_false not_writes_fail fun h' => h h'.1

/-! ## What comes back -/

/-- The value that comes back for a number: an integer has a sign exactly under a format that has
one. -/
def canonicalNumber (format : NumberFormat) (value : Value) : Value :=
  if format.isFloat then value
  else if format.isSigned then (value.signed?.map Value.signed).getD value
  else (value.unsigned?.map Value.unsigned).getD value

theorem reads_unsigned (h : Writes (writeUnsigned format width value) bytes) :
    Reads (readUnsigned format width) bytes ((value.unsigned?.map Value.unsigned).getD value) := by
  obtain ⟨n, hn, hlt, rfl⟩ := writes_unsigned_iff.mp h
  rw [hn]
  exact (reads_takeNumber format hlt).map

theorem reads_signed (hw : 0 < width) (h : Writes (writeSigned format width value) bytes) :
    Reads (readSigned format width) bytes ((value.signed?.map Value.signed).getD value) := by
  obtain ⟨i, hi, hlow, hhigh, rfl⟩ := writes_signed_iff.mp h
  have hread : Reads (readSigned format width) (littleEndian width (twosComplement width i))
      (.signed (ofTwosComplement width (twosComplement width i))) :=
    (reads_takeNumber format (twosComplement_lt width i)).map
  rw [ofTwosComplement_twosComplement hw hlow hhigh] at hread
  rw [hi]
  exact hread

/-- A floating point number is read back if its bits fit and stand for it. -/
theorem reads_float {bits : Double → Nat} {isNaN : Nat → Bool} {ofBits : Nat → Double}
    (hfit : ∀ x, value = .float x → x.isNaN = false → bits x < Nat.pow 2 (8 * width) ∧
      isNaN (bits x) = false ∧ ofBits (bits x) = x)
    (h : Writes (writeFloat format width bits value) bytes) :
    Reads (readFloat format width isNaN ofBits) bytes value := by
  obtain ⟨x, hx, hnan, rfl⟩ := writes_float_iff.mp h
  obtain ⟨hlt, hnumber, hback⟩ := hfit x hx hnan
  have hread : Reads (readFloat format width isNaN ofBits) (littleEndian width (bits x) ++ [])
      (.float (ofBits (bits x))) := by
    refine (reads_takeNumber format hlt).bind ?_
    rw [hnumber]
    exact reads_pure _
  rwa [List.append_nil, hback, ← hx] at hread

theorem reads_shortU16 (h : Writes (writeShort value) bytes) :
    Reads (readNumber .shortU16) bytes ((value.unsigned?.map Value.unsigned).getD value) := by
  obtain ⟨n, hn, hlt, rfl⟩ := writes_short_iff.mp h
  have hfit : n < Nat.pow 128 (2 + 1) := Nat.lt_trans hlt (by decide)
  have hread := reads_short 0 0 hfit
  rw [Nat.zero_add, show Nat.pow 128 0 = 1 from rfl, Nat.mul_one] at hread
  rw [hn]
  exact hread

/-- The number under a format is read back, where a floating point number that is written in single
precision is one. -/
theorem reads_number (hsingle : format = .f32 → ∀ x, value = .float x → x.IsSingle)
    (h : Writes (writeNumber format value) bytes) :
    Reads (readNumber format) bytes (canonicalNumber format value) := by
  cases format
  case u8 | u16 | u32 | u64 | u128 => exact reads_unsigned h
  case i8 | i16 | i32 | i64 | i128 => exact reads_signed (by decide) h
  case shortU16 => exact reads_shortU16 h
  case f32 =>
    -- In single precision only numbers in single precision come back.
    refine reads_float (fun x hx _ => ?_) h
    exact (hsingle rfl x hx).toSingle_spec
  case f64 =>
    refine reads_float (fun x _ hnan => ⟨x.bits.toNat_lt, ?_, ?_⟩) h
    · rw [UInt64.ofNat_toNat]
      exact hnan
    · rw [UInt64.ofNat_toNat]

/-- The number that is read back has the same bytes. -/
theorem writes_canonicalNumber (h : Writes (writeNumber format value) bytes) :
    Writes (writeNumber format (canonicalNumber format value)) bytes := by
  have hunsigned : ∀ {n}, value.unsigned? = some n →
      ((value.unsigned?.map Value.unsigned).getD value).unsigned? = some n := by
    intro n hn
    rw [hn]
    rfl
  have hsigned : ∀ {i}, value.signed? = some i →
      ((value.signed?.map Value.signed).getD value).signed? = some i := by
    intro i hi
    rw [hi]
    rfl
  cases format
  case u8 | u16 | u32 | u64 | u128 =>
    obtain ⟨n, hn, hlt, rfl⟩ := writes_unsigned_iff.mp h
    exact writes_unsigned_iff.mpr ⟨n, hunsigned hn, hlt, rfl⟩
  case i8 | i16 | i32 | i64 | i128 =>
    obtain ⟨i, hi, hlow, hhigh, rfl⟩ := writes_signed_iff.mp h
    exact writes_signed_iff.mpr ⟨i, hsigned hi, hlow, hhigh, rfl⟩
  case shortU16 =>
    obtain ⟨n, hn, hlt, rfl⟩ := writes_short_iff.mp h
    exact writes_short_iff.mpr ⟨n, hunsigned hn, hlt, rfl⟩
  case f32 | f64 => exact h

/-! ## Sizes and flags -/

variable {n : Nat}

/-- A number without sign comes back as a number without sign or as one that can be taken for
it. -/
theorem unsigned?_canonicalNumber (h : Writes (writeNumber format (.unsigned n)) bytes) :
    (canonicalNumber format (.unsigned n)).unsigned? = some n := by
  cases format
  case u8 | u16 | u32 | u64 | u128 | shortU16 => rfl
  case i8 | i16 | i32 | i64 | i128 =>
    obtain ⟨i, hi, -⟩ := writes_signed_iff.mp h
    -- It was written, so it is within the bounds of an integer with a sign.
    have hsmall : n < Nat.pow 2 127 := by
      by_cases hn : n < Nat.pow 2 127
      · exact hn
      · rw [Value.signed?, if_neg hn] at hi
        cases hi
    show (((Value.unsigned n).signed?.map Value.signed).getD (.unsigned n)).unsigned? = some n
    rw [Value.signed?, if_pos hsmall]
    rfl
  case f32 | f64 => exact absurd h not_writes_fail

/-- A number without sign is read back in each format that takes it. -/
theorem reads_unsignedNumber (h : Writes (writeNumber format (.unsigned n)) bytes) :
    Reads (readNumber format) bytes (canonicalNumber format (.unsigned n)) := by
  refine reads_number ?_ h
  rintro - x ⟨⟩

theorem reads_size {error : WireError} (hn : n < sizeLimit)
    (h : Writes (writeNumber format (.unsigned n)) bytes) :
    Reads (readSize format error) bytes n := by
  have hread : Reads (readSize format error) (bytes ++ []) n := by
    refine (reads_unsignedNumber h).bind ?_
    rw [unsigned?_canonicalNumber h, Option.filter_some, if_pos (decide_eq_true hn)]
    exact reads_done n
  rwa [List.append_nil] at hread

end DartClient
