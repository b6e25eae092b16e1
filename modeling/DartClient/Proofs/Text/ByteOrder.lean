import DartClient.Proofs.Text.Utf8

/-!
# The order of texts and of their bytes

Texts are ordered character by character, and in this order their bytes ascend as well. The first
byte of a greater code point is never less: more bytes start with a greater mark, and under one mark
stand the most significant bits. Where first bytes are the same, as many bytes follow, and the first
group of six bits in which two code points differ decides.

## Main definitions

* `leadingBits`, `firstByte`, `continuations`: the bytes of a code point, by groups of six bits.

## Main results

* `utf8EncodeChar_append_lt`: a lesser character has lesser bytes, whatever stands behind it.
* `encode_lt`: the bytes of texts in ascending order ascend.
-/

namespace DartClient.Text.Utf8

/-- The bits of a code point in front of its last groups of six. -/
def leadingBits : Nat → Nat → Nat
  | 0, code => code
  | count + 1, code => leadingBits count code / 64

/-- The first byte of a code point, and how many bytes follow it. -/
def firstByte (code : Nat) : Nat × Nat :=
  if code ≤ 0x7F then (code, 0)
  else if code ≤ 0x7FF then (leadingBits 1 code + 0xC0, 1)
  else if code ≤ 0xFFFF then (leadingBits 2 code + 0xE0, 2)
  else (leadingBits 3 code + 0xF0, 3)

/-- The last groups of six bits of a code point, each in a byte. -/
def continuations : Nat → Nat → List UInt8
  | 0, _ => []
  | count + 1, code => UInt8.ofNat (leadingBits count code % 64 + 0x80) :: continuations count code

theorem utf8EncodeChar_eq (c : Char) : String.utf8EncodeChar c =
    UInt8.ofNat (firstByte c.toNat).1 :: continuations (firstByte c.toNat).2 c.toNat := by
  have hvalid := toNat_valid c
  have hdef : c.val.toNat = c.toNat := rfl
  unfold String.utf8EncodeChar firstByte
  simp only [hdef]
  generalize c.toNat = v at *
  -- One case for each number of bytes; a first byte has room for all bits in front of the groups.
  by_cases hone : v ≤ 127
  · simp [hone, continuations]
  by_cases htwo : v ≤ 2047
  · have hroom : v / 64 % 32 = v / 64 := by omega
    simp [hone, htwo, hroom, continuations, leadingBits]
  by_cases hthree : v ≤ 65535
  · have hroom : v / 4096 % 16 = v / 4096 := by omega
    simp [hone, htwo, hthree, hroom, continuations, leadingBits, Nat.div_div_eq_div_mul]
  · have hroom : v / 262144 % 8 = v / 262144 := by omega
    simp [hone, htwo, hthree, hroom, continuations, leadingBits, Nat.div_div_eq_div_mul]

variable {v w : Nat} {front back : List UInt8}

/-- The first of some bytes decides about their order, unless it is the same. -/
theorem ofNat_cons_lt (hv : v < 256) (hw : w < 256) (h : v < w ∨ v = w ∧ front < back) :
    UInt8.ofNat v :: front < UInt8.ofNat w :: back := by
  rw [List.cons_lt_cons_iff, UInt8.lt_iff_toNat_lt, ← UInt8.toNat_inj, UInt8.toNat_ofNat',
    UInt8.toNat_ofNat', Nat.mod_eq_of_lt hv, Nat.mod_eq_of_lt hw]
  exact h

theorem leadingBits_le (hle : v ≤ w) (count : Nat) : leadingBits count v ≤ leadingBits count w := by
  induction count with
  | zero => exact hle
  | succ count ih => exact Nat.div_le_div_right ih

/-- Of code points that are the same in front of some groups of bits, the lesser one has lesser
groups. -/
theorem continuations_append_lt (hlt : v < w) : ∀ {count : Nat},
    leadingBits count v = leadingBits count w →
      continuations count v ++ front < continuations count w ++ back := by
  intro count
  induction count with
  | zero =>
    intro hsame
    exact absurd hsame (Nat.ne_of_lt hlt)
  | succ count ih =>
    intro hsame
    rw [leadingBits, leadingBits] at hsame
    refine ofNat_cons_lt (by omega) (by omega) ?_
    -- The first group differs, or the next ones decide.
    rcases Nat.lt_or_eq_of_le (leadingBits_le (Nat.le_of_lt hlt) count) with hgroup | hgroup
    · exact .inl (by omega)
    · exact .inr ⟨by rw [hgroup], ih hgroup⟩

/-- A lesser code point has a lesser first byte, or the same one and the same bits in it. -/
theorem firstByte_lt (hlt : v < w) : (firstByte v).1 < (firstByte w).1 ∨
    firstByte v = firstByte w ∧
      leadingBits (firstByte v).2 v = leadingBits (firstByte v).2 w := by
  unfold firstByte
  repeat' split
  all_goals simp only [leadingBits, Prod.mk.injEq, and_true]
  all_goals omega

/-- **A lesser character has lesser bytes**, whatever stands behind it. -/
theorem utf8EncodeChar_append_lt {c d : Char} (h : c < d) (front back : List UInt8) :
    String.utf8EncodeChar c ++ front < String.utf8EncodeChar d ++ back := by
  have hfirst (c : Char) : (firstByte c.toNat).1 < 256 := by
    have hvalid := toNat_valid c
    unfold firstByte
    repeat' split
    all_goals simp only [leadingBits]
    all_goals omega
  have hlt : c.toNat < d.toNat := h
  rw [utf8EncodeChar_eq, utf8EncodeChar_eq]
  refine ofNat_cons_lt (hfirst c) (hfirst d) ((firstByte_lt hlt).imp_right ?_)
  rintro ⟨hsame, hbits⟩
  rw [← hsame]
  exact ⟨rfl, continuations_append_lt hlt hbits⟩

/-- The bytes of characters in ascending order ascend. -/
theorem encodeChars_lt {chars others : List Char} (h : chars < others) :
    encodeChars chars < encodeChars others := by
  -- The induction is on the characters that both have in front.
  induction h with
  | @nil c others =>
    rw [encodeChars, encodeChars, List.flatMap_nil, List.flatMap_cons, utf8EncodeChar_eq]
    exact List.Lex.nil
  | @rel c chars d others hlt =>
    exact utf8EncodeChar_append_lt hlt (encodeChars chars) (encodeChars others)
  | @cons c chars others _ ih =>
    rw [encodeChars, encodeChars, List.flatMap_cons, List.flatMap_cons]
    exact List.append_left_lt ih

/-- **The bytes of texts in ascending order ascend.** -/
theorem encode_lt {text other : String} (h : text < other) : encode text < encode other :=
  encodeChars_lt (String.lt_iff.mp h)

end DartClient.Text.Utf8
