import DartClient.Number.Double

/-!
# Exact conversions

A ratio that is a member of a binary format is not changed by rounding. So a number in single
precision is not changed by the conversion to double precision, and the conversion back gives its
bits again.

## Main definitions

* `Double.IsSingle`: a double that is equal to a number in single precision.

## Main results

* `ofRatio_of_exact`: rounding a ratio that fits into the significand.
* `toSingle_ofSingle`: the bits of a number in single precision survive the way to double
  precision and back.
* `Double.IsSingle.toSingle_spec`: so do the doubles that come from single precision.
-/

namespace DartClient.Number

theorem pow_two_add (a b : Nat) : Nat.pow 2 (a + b) = Nat.pow 2 a * Nat.pow 2 b :=
  Nat.pow_add 2 a b

theorem pow_two_pos (a : Nat) : 0 < Nat.pow 2 a := Nat.pow_pos (by decide)

theorem pow_two_lt_iff {a b : Nat} : Nat.pow 2 a < Nat.pow 2 b ↔ a < b :=
  Nat.pow_lt_pow_iff_right (by decide)

/-- Doublings may be moved from one factor to another. -/
theorem mul_pow_two_shift (s d a b : Nat) :
    s * Nat.pow 2 d * Nat.pow 2 (a + b) = s * Nat.pow 2 (d + a) * Nat.pow 2 b := by
  rw [pow_two_add a, pow_two_add d, ← Nat.mul_assoc, Nat.mul_assoc s]

/-- A quotient without remainder is not changed by rounding. -/
theorem roundDiv_mul_right (a : Nat) {den : Nat} (h : 0 < den) : roundDiv (a * den) den = a := by
  unfold roundDiv
  simp [Nat.mul_div_cancel _ h, h]

namespace BinaryFormat

variable (format : BinaryFormat)

theorem toRatio_fst (magnitude : Nat) : (format.toRatio magnitude).1 =
    (format.decompose magnitude).1 * Nat.pow 2 (format.decompose magnitude).2 := rfl

theorem toRatio_snd (magnitude : Nat) : (format.toRatio magnitude).2 = Nat.pow 2 format.depth :=
  rfl

/-- A significand is normal if it fits and, once it is doubled, takes up its whole field. -/
def IsNormal (significand doublings : Nat) : Prop :=
  significand < 2 * Nat.pow 2 format.fractionBits ∧
    (doublings = 0 ∨ Nat.pow 2 format.fractionBits ≤ significand)

/-- The significand of a magnitude is normal, and the magnitude is put together from it. -/
theorem decompose_spec (magnitude : Nat) :
    format.IsNormal (format.decompose magnitude).1 (format.decompose magnitude).2 ∧
      (format.decompose magnitude).2 * Nat.pow 2 format.fractionBits +
        (format.decompose magnitude).1 = magnitude := by
  have hpos : 0 < Nat.pow 2 format.fractionBits := pow_two_pos _
  unfold IsNormal decompose
  generalize Nat.pow 2 format.fractionBits = unit at *
  have hlt := Nat.mod_lt magnitude hpos
  have hdiv := Nat.div_add_mod magnitude unit
  simp only
  -- Below one unit there is no implicit bit, and the exponent field is empty.
  split
  · rename_i h
    rw [h, Nat.mul_zero, Nat.zero_add] at hdiv
    rw [hdiv] at hlt
    rw [hdiv]
    exact ⟨⟨by omega, Or.inl rfl⟩, by rw [Nat.zero_mul, Nat.zero_add]⟩
  · rename_i h
    obtain ⟨exponent, he⟩ := Nat.exists_eq_succ_of_ne_zero h
    rw [he, Nat.succ_eq_add_one, Nat.mul_add, Nat.mul_one, Nat.mul_comm] at hdiv
    simp only [he, Nat.succ_eq_add_one, Nat.add_sub_cancel]
    omega

/-- A normal significand is recovered from the magnitude put together from it. -/
theorem decompose_of_isNormal {significand doublings : Nat}
    (h : format.IsNormal significand doublings) :
    format.decompose (doublings * Nat.pow 2 format.fractionBits + significand) =
      (significand, doublings) := by
  have hpos : 0 < Nat.pow 2 format.fractionBits := pow_two_pos _
  unfold IsNormal at h
  unfold decompose
  generalize Nat.pow 2 format.fractionBits = unit at *
  obtain ⟨hlt, hnormal⟩ := h
  simp only
  -- A significand below the unit has no doublings, so it is the magnitude.
  rcases Nat.lt_or_ge significand unit with hs | hs
  · obtain rfl : doublings = 0 := by omega
    rw [Nat.zero_mul, Nat.zero_add, Nat.div_eq_of_lt hs, Nat.mod_eq_of_lt hs, if_pos rfl]
  · have hq : (doublings * unit + significand) / unit = doublings + 1 := by
      rw [Nat.mul_comm, Nat.mul_add_div hpos]
      have := Nat.div_eq_of_lt_le (n := unit) (m := significand) (k := 1) (by omega) (by omega)
      omega
    have hr : (doublings * unit + significand) % unit = significand - unit := by
      rw [Nat.mul_comm, Nat.mul_add_mod, Nat.mod_eq_sub_mod hs, Nat.mod_eq_of_lt (by omega)]
    rw [hq, hr, if_neg (by omega)]
    ext <;> simp only <;> omega

/-- A number has one normal significand at most. -/
theorem IsNormal.unique {s d s' d' : Nat} (h : format.IsNormal s d) (h' : format.IsNormal s' d')
    (heq : s * Nat.pow 2 d = s' * Nat.pow 2 d') : s = s' ∧ d = d' := by
  -- Of two normal significands of one number, neither can be doubled less often.
  have key : ∀ {s d s' d' : Nat}, format.IsNormal s d → format.IsNormal s' d' →
      s * Nat.pow 2 d = s' * Nat.pow 2 d' → ¬ d < d' := by
    rintro s d s' d' ⟨hlt, -⟩ ⟨-, hnormal⟩ heq hd
    obtain ⟨n, rfl⟩ := Nat.exists_eq_add_of_lt hd
    have hs' : Nat.pow 2 format.fractionBits ≤ s' := hnormal.resolve_left (by omega)
    have hpow : Nat.pow 2 (d + n + 1) = Nat.pow 2 d * (2 * Nat.pow 2 n) := by
      rw [Nat.add_assoc, pow_two_add, pow_two_add, Nat.mul_comm (Nat.pow 2 n)]
    have hd : 0 < Nat.pow 2 d := pow_two_pos _
    have hn : 0 < Nat.pow 2 n := pow_two_pos _
    rw [hpow, ← Nat.mul_assoc, Nat.mul_right_comm] at heq
    have hs := Nat.eq_of_mul_eq_mul_right hd heq
    have : s' * 1 ≤ s' * Nat.pow 2 n := Nat.mul_le_mul_left s' hn
    rw [Nat.mul_left_comm] at hs
    omega
  have hd : d = d' := by
    have h₁ := key h h' heq
    have h₂ := key h' h heq.symm
    omega
  subst hd
  exact ⟨Nat.eq_of_mul_eq_mul_right (pow_two_pos _) heq, rfl⟩

/-- A short significand, doubled back as far as the least exponent allows, is normal. -/
theorem isNormal_div {k e : Nat} (hk : k < 2 * Nat.pow 2 format.fractionBits) (h0 : k ≠ 0) :
    let number := k * Nat.pow 2 e
    let doublings := Nat.log2 number - format.fractionBits
    format.IsNormal (number / Nat.pow 2 doublings) doublings ∧
      number / Nat.pow 2 doublings * Nat.pow 2 doublings = number := by
  intro number doublings
  have hne : number ≠ 0 := Nat.mul_ne_zero h0 (Nat.pos_iff_ne_zero.mp (pow_two_pos e))
  have hlow : Nat.pow 2 number.log2 ≤ number := Nat.log2_self_le hne
  have hhigh : number < Nat.pow 2 (number.log2 + 1) := Nat.lt_log2_self
  have hlt : number < Nat.pow 2 (format.fractionBits + 1 + e) := by
    have := Nat.mul_lt_mul_of_pos_right hk (pow_two_pos e)
    rw [pow_two_add, pow_two_add, Nat.mul_comm (Nat.pow 2 format.fractionBits)]
    exact this
  have hlog : number.log2 < format.fractionBits + 1 + e := (Nat.log2_lt hne).mpr hlt
  -- All the doublings come from the power of two, so nothing is cut off.
  have hdiv : number / Nat.pow 2 doublings * Nat.pow 2 doublings = number := by
    have he : e = doublings + (e - doublings) := by omega
    refine Nat.div_mul_cancel ⟨k * Nat.pow 2 (e - doublings), ?_⟩
    calc number = k * Nat.pow 2 (doublings + (e - doublings)) := by rw [← he]
      _ = Nat.pow 2 doublings * (k * Nat.pow 2 (e - doublings)) := by
        rw [pow_two_add, Nat.mul_left_comm]
  refine ⟨⟨?_, ?_⟩, hdiv⟩
  · rw [Nat.div_lt_iff_lt_mul (pow_two_pos _)]
    have hle : Nat.pow 2 (number.log2 + 1) ≤ Nat.pow 2 (1 + format.fractionBits + doublings) :=
      Nat.pow_le_pow_right (by decide) (by omega)
    rw [pow_two_add (1 + format.fractionBits), pow_two_add 1] at hle
    exact Nat.lt_of_lt_of_le hhigh hle
  · rcases Nat.eq_zero_or_pos doublings with h | h
    · exact Or.inl h
    · refine Or.inr ((Nat.le_div_iff_mul_le (pow_two_pos _)).mpr ?_)
      rw [← pow_two_add, show format.fractionBits + doublings = number.log2 by omega]
      exact hlow

/-- **Rounding keeps what fits.** A ratio that is a short significand in units of the least positive
number is rounded to the magnitude of that number. -/
theorem ofRatio_of_exact {num den k e : Nat} (hden : 0 < den)
    (hk : k < 2 * Nat.pow 2 format.fractionBits)
    (h : num * Nat.pow 2 format.depth = k * Nat.pow 2 e * den) :
    ∃ s d, format.IsNormal s d ∧ s * Nat.pow 2 d = k * Nat.pow 2 e ∧
      format.ofRatio num den = min (d * Nat.pow 2 format.fractionBits + s) format.infinity := by
  -- Zero is rounded apart: it has no leading bit to count from.
  by_cases h0 : k = 0
  · subst h0
    have hnum : num = 0 := by
      rw [Nat.zero_mul, Nat.zero_mul] at h
      exact (Nat.mul_eq_zero.mp h).resolve_right (Nat.pos_iff_ne_zero.mp (pow_two_pos _))
    refine ⟨0, 0, ⟨?_, Or.inl rfl⟩, by simp, ?_⟩
    · have := pow_two_pos format.fractionBits
      omega
    · simp [ofRatio, hnum]
  · obtain ⟨hnormal, hdiv⟩ := format.isNormal_div (e := e) hk h0
    refine ⟨_, _, hnormal, hdiv, ?_⟩
    have hnum : num ≠ 0 := by
      rintro rfl
      rw [Nat.zero_mul] at h
      have hpos := Nat.mul_pos (Nat.mul_pos (Nat.pos_of_ne_zero h0) (pow_two_pos e)) hden
      omega
    unfold ofRatio
    simp only [if_neg hnum, h, Nat.mul_div_cancel _ hden]
    congr 2
    generalize hd : Nat.log2 (k * Nat.pow 2 e) - format.fractionBits = d at *
    rw [show k * Nat.pow 2 e * den = k * Nat.pow 2 e / Nat.pow 2 d * (den * Nat.pow 2 d) by
      rw [Nat.mul_comm den, ← Nat.mul_assoc, hdiv]]
    exact roundDiv_mul_right _ (Nat.mul_pos hden (pow_two_pos d))

/-- Rounding the ratio of a finite magnitude gives the magnitude. -/
theorem ofRatio_eq_of_exact {num den magnitude : Nat} (hden : 0 < den)
    (hfinite : magnitude ≤ format.infinity)
    (h : num * Nat.pow 2 format.depth = (format.toRatio magnitude).1 * den) :
    format.ofRatio num den = magnitude := by
  obtain ⟨hnormal, hspec⟩ := format.decompose_spec magnitude
  obtain ⟨s, d, hsd, heq, hround⟩ := format.ofRatio_of_exact hden hnormal.1 h
  obtain ⟨rfl, rfl⟩ := IsNormal.unique format hsd hnormal heq
  rw [hround, hspec, Nat.min_eq_left hfinite]

/-- Rounding stops at infinity. -/
theorem ofRatio_le_infinity (num den : Nat) : format.ofRatio num den ≤ format.infinity := by
  unfold ofRatio
  split
  · exact Nat.zero_le _
  · exact Nat.min_le_right _ _

end BinaryFormat

namespace Double

theorem toNat_ofMagnitude (negative : Bool) {magnitude : Nat} (h : magnitude < Nat.pow 2 63) :
    (ofMagnitude negative magnitude).bits.toNat =
      magnitude + if negative then Nat.pow 2 63 else 0 := by
  have h63 : Nat.pow 2 63 = 9223372036854775808 := rfl
  rw [h63] at h ⊢
  unfold ofMagnitude
  rw [h63, UInt64.toNat_ofNat']
  cases negative <;> simp only [Bool.false_eq_true, if_true, if_false] <;> omega

theorem magnitude_ofMagnitude (negative : Bool) {magnitude : Nat} (h : magnitude < Nat.pow 2 63) :
    (ofMagnitude negative magnitude).magnitude = magnitude := by
  unfold Double.magnitude
  rw [toNat_ofMagnitude negative h]
  cases negative
  · rw [if_neg (by decide), Nat.add_zero, Nat.mod_eq_of_lt h]
  · rw [if_pos rfl, Nat.add_mod_right, Nat.mod_eq_of_lt h]

theorem isNegative_ofMagnitude (negative : Bool) {magnitude : Nat} (h : magnitude < Nat.pow 2 63) :
    (ofMagnitude negative magnitude).isNegative = negative := by
  unfold isNegative
  rw [toNat_ofMagnitude negative h]
  cases negative
  · rw [if_neg (by decide), Nat.add_zero]
    exact decide_eq_false (Nat.not_le.mpr h)
  · rw [if_pos rfl]
    exact decide_eq_true (Nat.le_add_left _ _)

/-- A finite number in single precision has few significant bits and a small exponent. -/
theorem toRatio_single {magnitude : Nat} (h : magnitude < binary32.infinity) :
    ∃ s d, s < Nat.pow 2 24 ∧ d < 255 ∧
      binary32.toRatio magnitude = (s * Nat.pow 2 d, Nat.pow 2 149) := by
  obtain ⟨hnormal, hspec⟩ := binary32.decompose_spec magnitude
  refine ⟨(binary32.decompose magnitude).1, (binary32.decompose magnitude).2, hnormal.1, ?_, rfl⟩
  have hinf : binary32.infinity = 255 * 8388608 := rfl
  have hunit : Nat.pow 2 binary32.fractionBits = 8388608 := rfl
  rw [hunit] at hspec
  omega

/-- In a format that is wide and deep enough, such a number is finite and the same: only the unit
is another one. -/
theorem toRatio_ofRatio_of_wide {format : BinaryFormat} {s d shift : Nat}
    (hs : s < Nat.pow 2 24) (hd : d < 255) (hwide : 23 ≤ format.fractionBits)
    (hshift : format.depth = shift + 149)
    (htop : (shift + 279) * Nat.pow 2 format.fractionBits < format.infinity) :
    format.ofRatio (s * Nat.pow 2 d) (Nat.pow 2 149) < format.infinity ∧
      (format.toRatio (format.ofRatio (s * Nat.pow 2 d) (Nat.pow 2 149))).1 =
        s * Nat.pow 2 (d + shift) := by
  -- In units of the deep format the number is a multiple of a power of two.
  have hexact : s * Nat.pow 2 d * Nat.pow 2 format.depth =
      s * Nat.pow 2 (d + shift) * Nat.pow 2 149 := by
    rw [hshift]
    exact mul_pow_two_shift s d shift 149
  have hfits : s < 2 * Nat.pow 2 format.fractionBits := by
    have hle : Nat.pow 2 24 ≤ Nat.pow 2 (1 + format.fractionBits) :=
      Nat.pow_le_pow_right (by decide) (by omega)
    rw [pow_two_add 1] at hle
    exact Nat.lt_of_lt_of_le hs hle
  obtain ⟨r, e, hnormal, heq, hround⟩ :=
    format.ofRatio_of_exact (pow_two_pos 149) hfits hexact
  -- The leading bit bounds the exponent, as both forms stand for one number.
  have he : e ≤ shift + 277 := by
    rcases hnormal.2 with rfl | hr
    · exact Nat.zero_le _
    · have hlow : Nat.pow 2 (format.fractionBits + e) ≤ s * Nat.pow 2 (d + shift) := by
        rw [← heq, pow_two_add]
        exact Nat.mul_le_mul_right _ hr
      have hhigh : s * Nat.pow 2 (d + shift) < Nat.pow 2 (24 + (d + shift)) := by
        rw [pow_two_add 24]
        exact Nat.mul_lt_mul_of_pos_right hs (pow_two_pos _)
      have := pow_two_lt_iff.mp (Nat.lt_of_le_of_lt hlow hhigh)
      omega
  have hfinite : e * Nat.pow 2 format.fractionBits + r < format.infinity := by
    have hr : r < 2 * Nat.pow 2 format.fractionBits := hnormal.1
    have hle := Nat.mul_le_mul_right (Nat.pow 2 format.fractionBits) he
    rw [Nat.add_mul] at htop hle
    omega
  rw [hround, Nat.min_eq_left (Nat.le_of_lt hfinite)]
  refine ⟨hfinite, ?_⟩
  rw [BinaryFormat.toRatio_fst, format.decompose_of_isNormal hnormal]
  exact heq

/-- A double that is equal to a number in single precision. -/
def IsSingle (x : Double) : Prop :=
  ∃ bits, bits < Nat.pow 2 32 ∧ isSingleNaN bits = false ∧ ofSingle bits = x

/-- **The bits of a number in single precision survive** the way to double precision and back. -/
theorem toSingle_ofSingle {bits : Nat} (hbits : bits < Nat.pow 2 32)
    (hnan : isSingleNaN bits = false) : (ofSingle bits).toSingle = bits := by
  have hle : bits % Nat.pow 2 31 ≤ binary32.infinity := by
    simpa [isSingleNaN] using hnan
  -- The sign is the bit above the magnitude.
  have hsplit : bits % Nat.pow 2 31 + (if Nat.pow 2 31 ≤ bits then Nat.pow 2 31 else 0) = bits := by
    rw [show Nat.pow 2 32 = 4294967296 from rfl] at hbits
    rw [show Nat.pow 2 31 = 2147483648 from rfl]
    split <;> omega
  have hinf64 : binary64.infinity < Nat.pow 2 63 := by decide
  unfold ofSingle
  simp only
  generalize hm : bits % Nat.pow 2 31 = magnitude at *
  -- Infinity is converted apart from the finite numbers.
  by_cases htop : magnitude = binary32.infinity
  · rw [if_pos htop]
    unfold toSingle
    rw [isInfinite, magnitude_ofMagnitude _ hinf64, isNegative_ofMagnitude _ hinf64]
    simpa [htop] using hsplit
  · rw [if_neg htop]
    obtain ⟨s, d, hs, hd, hratio⟩ := toRatio_single (Nat.lt_of_le_of_ne hle htop)
    obtain ⟨shift, hshift, htop64⟩ : ∃ shift, binary64.depth = shift + 149 ∧
        (shift + 279) * Nat.pow 2 binary64.fractionBits < binary64.infinity :=
      ⟨925, by decide, by decide⟩
    obtain ⟨hfinite, hnum⟩ := toRatio_ofRatio_of_wide hs hd (by decide) hshift htop64
    rw [hratio]
    simp only
    generalize hM : binary64.ofRatio (s * Nat.pow 2 d) (Nat.pow 2 149) = wide at *
    have hwide : wide < Nat.pow 2 63 := Nat.lt_trans hfinite hinf64
    -- Rounding back is exact, since the wide number is the narrow one.
    have hback : binary32.ofRatio (binary64.toRatio wide).1 (binary64.toRatio wide).2 =
        magnitude := by
      have hdepth : binary32.depth = 149 := by decide
      rw [BinaryFormat.toRatio_snd, hshift]
      refine binary32.ofRatio_eq_of_exact (pow_two_pos _) hle ?_
      rw [hnum, hratio, hdepth, mul_pow_two_shift]
    unfold toSingle
    rw [isInfinite, magnitude_ofMagnitude _ hwide, isNegative_ofMagnitude _ hwide]
    rw [show (wide == binary64.infinity) = false from beq_false_of_ne (Nat.ne_of_lt hfinite)]
    simpa [hback] using hsplit

/-- What comes from single precision is a number or infinite. -/
theorem isNaN_ofSingle (bits : Nat) : (ofSingle bits).isNaN = false := by
  have hinf : binary64.infinity < Nat.pow 2 63 := by decide
  unfold ofSingle isNaN
  simp only
  split
  · rw [magnitude_ofMagnitude _ hinf]
    exact decide_eq_false (Nat.lt_irrefl _)
  · have hle := binary64.ofRatio_le_infinity (binary32.toRatio (bits % Nat.pow 2 31)).1
      (binary32.toRatio (bits % Nat.pow 2 31)).2
    rw [magnitude_ofMagnitude _ (Nat.lt_of_le_of_lt hle hinf)]
    exact decide_eq_false (Nat.not_lt.mpr hle)

/-- A double equal to a number in single precision is written as that number. -/
theorem IsSingle.toSingle_spec {x : Double} (h : x.IsSingle) :
    x.toSingle < Nat.pow 2 32 ∧ isSingleNaN x.toSingle = false ∧ ofSingle x.toSingle = x := by
  obtain ⟨bits, hbits, hnan, rfl⟩ := h
  rw [toSingle_ofSingle hbits hnan]
  exact ⟨hbits, hnan, rfl⟩

end Double

end DartClient.Number
