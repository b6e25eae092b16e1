import DartClient.Text.Utf8

/-!
# Texts survive UTF-8

The bytes of a character are put together again to that character, and so the bytes of a text are
read as that text. No other bytes are read as it, since the marks of all bytes are checked.

## Main results

* `decodeChar_utf8EncodeChar`: a character in front of other bytes is read back.
* `decode_of_encode`: a text is read back from its bytes.
* `encode_of_decode`: it is read from no other bytes.
* `length_encode`: the number of its bytes.
-/

namespace DartClient.Text.Utf8

/-! ## Bytes with a mark

A first byte carries its mark above the payload bits, a continuation byte carries `0x80` above six
of them. The payload of each is a number below a small bound, so these facts are checked by going
through all of them. -/

theorem isContinuation_mark : ∀ n < 64, isContinuation (UInt8.ofNat (n + 0x80)) = true := by
  decide

theorem payload_continuation :
    ∀ n < 64, (UInt8.ofNat (n + 0x80) &&& 0x3F).toNat = n := by
  decide

theorem payload_two : ∀ n < 32, (UInt8.ofNat (n + 0xC0) &&& 0x1F).toNat = n := by
  decide

theorem payload_three : ∀ n < 16, (UInt8.ofNat (n + 0xE0) &&& 0x0F).toNat = n := by
  decide

theorem payload_four : ∀ n < 8, (UInt8.ofNat (n + 0xF0) &&& 0x07).toNat = n := by
  decide

theorem secondOfThree_mark : ∀ n < 16, ∀ m < 64, (n = 0 → 32 ≤ m) → (n = 13 → m < 32) →
    secondOfThree (UInt8.ofNat (n + 0xE0)) (UInt8.ofNat (m + 0x80)) = true := by
  decide

theorem secondOfFour_mark : ∀ n < 5, ∀ m < 64, (n = 0 → 16 ≤ m) → (n = 4 → m < 16) →
    secondOfFour (UInt8.ofNat (n + 0xF0)) (UInt8.ofNat (m + 0x80)) = true := by
  decide

theorem lead_one : ∀ n < 128, UInt8.ofNat n < 0x80 := by
  decide

theorem lead_two : ∀ n < 32, 2 ≤ n → ¬ UInt8.ofNat (n + 0xC0) < 0x80 ∧
    (0xC2 ≤ UInt8.ofNat (n + 0xC0) && UInt8.ofNat (n + 0xC0) ≤ 0xDF) = true := by
  decide

theorem lead_three : ∀ n < 16, ¬ UInt8.ofNat (n + 0xE0) < 0x80 ∧
    (0xC2 ≤ UInt8.ofNat (n + 0xE0) && UInt8.ofNat (n + 0xE0) ≤ 0xDF) = false ∧
    (0xE0 ≤ UInt8.ofNat (n + 0xE0) && UInt8.ofNat (n + 0xE0) ≤ 0xEF) = true := by
  decide

theorem lead_four : ∀ n < 5, ¬ UInt8.ofNat (n + 0xF0) < 0x80 ∧
    (0xC2 ≤ UInt8.ofNat (n + 0xF0) && UInt8.ofNat (n + 0xF0) ≤ 0xDF) = false ∧
    (0xE0 ≤ UInt8.ofNat (n + 0xF0) && UInt8.ofNat (n + 0xF0) ≤ 0xEF) = false ∧
    (0xF0 ≤ UInt8.ofNat (n + 0xF0) && UInt8.ofNat (n + 0xF0) ≤ 0xF4) = true := by
  decide

/-! ## One character -/

/-- Payload bits of six each are put together to the character they were taken from. -/
theorem assemble_eq {c : Char} {lead : Nat} {rest : List UInt8}
    (h : rest.foldl (fun code b => code * 64 + (b &&& 0x3F).toNat) lead = c.toNat) :
    assemble lead rest = c := by
  rw [assemble, h, Char.ofNat_toNat]

variable {c : Char} (rest : List UInt8)

theorem decodeChar_one {n : Nat} (h : c.toNat = n) (hn : n < 128) :
    decodeChar (UInt8.ofNat n) rest = .ok (c, rest) := by
  unfold decodeChar
  rw [if_pos (lead_one n hn), assemble_eq]
  rw [List.foldl_nil, UInt8.toNat_ofNat', h]
  omega

theorem decodeChar_two {n m : Nat} (h : c.toNat = n * 64 + m) (hn : n < 32) (hn' : 2 ≤ n)
    (hm : m < 64) :
    decodeChar (UInt8.ofNat (n + 0xC0)) (UInt8.ofNat (m + 0x80) :: rest) = .ok (c, rest) := by
  obtain ⟨h₁, h₂⟩ := lead_two n hn hn'
  unfold decodeChar
  rw [if_neg h₁, if_pos h₂]
  -- Both bytes have their marks; what remains is the arithmetic of the payloads.
  simp only [isContinuation_mark m hm, if_true]
  rw [assemble_eq]
  simp only [List.foldl_cons, List.foldl_nil]
  rw [payload_two n hn, payload_continuation m hm, h]

theorem decodeChar_three {n m k : Nat} (h : c.toNat = (n * 64 + m) * 64 + k) (hn : n < 16)
    (hm : m < 64) (hk : k < 64) (hlow : n = 0 → 32 ≤ m) (hgap : n = 13 → m < 32) :
    decodeChar (UInt8.ofNat (n + 0xE0)) (UInt8.ofNat (m + 0x80) :: UInt8.ofNat (k + 0x80) :: rest) =
      .ok (c, rest) := by
  obtain ⟨h₁, h₂, h₃⟩ := lead_three n hn
  unfold decodeChar
  rw [if_neg h₁, h₂, if_neg Bool.false_ne_true, if_pos h₃]
  simp only [secondOfThree_mark n hn m hm hlow hgap, isContinuation_mark k hk, Bool.not_true,
    Bool.false_eq_true, if_true, if_false]
  rw [assemble_eq]
  simp only [List.foldl_cons, List.foldl_nil]
  rw [payload_three n hn, payload_continuation m hm, payload_continuation k hk, h]

theorem decodeChar_four {n m k l : Nat} (h : c.toNat = ((n * 64 + m) * 64 + k) * 64 + l)
    (hn : n < 5) (hm : m < 64) (hk : k < 64) (hl : l < 64) (hlow : n = 0 → 16 ≤ m)
    (hhigh : n = 4 → m < 16) :
    decodeChar (UInt8.ofNat (n + 0xF0)) (UInt8.ofNat (m + 0x80) :: UInt8.ofNat (k + 0x80) ::
      UInt8.ofNat (l + 0x80) :: rest) = .ok (c, rest) := by
  obtain ⟨h₁, h₂, h₃, h₄⟩ := lead_four n hn
  unfold decodeChar
  rw [if_neg h₁, h₂, if_neg Bool.false_ne_true, h₃, if_neg Bool.false_ne_true, if_pos h₄]
  simp only [secondOfFour_mark n hn m hm hlow hhigh, isContinuation_mark k hk,
    isContinuation_mark l hl, Bool.not_true, Bool.false_eq_true, if_true, if_false]
  rw [assemble_eq]
  simp only [List.foldl_cons, List.foldl_nil]
  rw [payload_four n (by omega), payload_continuation m hm, payload_continuation k hk,
    payload_continuation l hl, h]

/-- A character is no surrogate and not past the last code point. -/
theorem toNat_valid (c : Char) : c.toNat < 0xD800 ∨ 0xDFFF < c.toNat ∧ c.toNat < 0x110000 :=
  c.valid

/-- **A character in front of other bytes is read back** from its one to four bytes. -/
theorem decodeChar_utf8EncodeChar (c : Char) : ∃ first tail,
    String.utf8EncodeChar c = first :: tail ∧
      ∀ rest, decodeChar first (tail ++ rest) = .ok (c, rest) := by
  have hvalid := toNat_valid c
  have hdef : c.val.toNat = c.toNat := rfl
  unfold String.utf8EncodeChar
  simp only [hdef]
  generalize hv : c.toNat = v at *
  -- One case for each number of bytes, with the bounds of the code point.
  split
  · exact ⟨_, _, rfl, fun rest => decodeChar_one rest hv (by omega)⟩
  split
  · refine ⟨_, _, rfl, fun rest => ?_⟩
    exact decodeChar_two rest (by omega) (by omega) (by omega) (by omega)
  split
  · refine ⟨_, _, rfl, fun rest => ?_⟩
    exact decodeChar_three rest (by omega) (by omega) (by omega) (by omega) (by omega) (by omega)
  · refine ⟨_, _, rfl, fun rest => ?_⟩
    -- A code point has no bits above those of the first byte.
    have hlead : v / 262144 % 8 = v / 262144 := by omega
    rw [hlead]
    exact decodeChar_four rest (by omega) (by omega) (by omega) (by omega) (by omega) (by omega)
      (by omega)

/-! ## Texts -/

theorem decodeFrom_cons {start : Nat} {first : UInt8} {rest left : List UInt8} {c : Char}
    (h : decodeChar first rest = .ok (c, left)) :
    decodeFrom start (first :: rest) =
      (decodeFrom (start + (rest.length + 1 - left.length)) left).map (c :: ·) := by
  rw [decodeFrom]
  split
  · rename_i hfault
    rw [h] at hfault
    cases hfault
  · rename_i hread
    obtain ⟨rfl, rfl⟩ := Prod.mk.inj (Except.ok.inj (h.symm.trans hread))
    rfl

theorem decodeFrom_encodeChars (chars : List Char) :
    ∀ start, decodeFrom start (encodeChars chars) = .ok chars := by
  induction chars with
  | nil =>
    intro start
    rw [encodeChars, List.flatMap_nil, decodeFrom]
  | cons c chars ih =>
    intro start
    obtain ⟨first, tail, hc, hread⟩ := decodeChar_utf8EncodeChar c
    have hsplit : encodeChars (c :: chars) = first :: (tail ++ encodeChars chars) := by
      rw [encodeChars, List.flatMap_cons, hc]
      rfl
    rw [hsplit, decodeFrom_cons (hread _), ih]
    rfl

/-- A text has as many bytes as its size says. -/
theorem length_encode (text : String) : (encode text).length = text.utf8ByteSize := by
  have hbytes : (encode text).toByteArray = text.toByteArray := by
    rw [encode, encodeChars, ← List.utf8Encode, String.utf8Encode_toList]
  rw [← List.size_toByteArray, hbytes, String.size_toByteArray]

/-- A text of one byte for each character. -/
theorem length_encode_replicate (n : Nat) :
    (encode (String.ofList (List.replicate n 'a'))).length = n := by
  rw [encode, String.toList_ofList, encodeChars]
  induction n with
  | zero => rfl
  | succ n ih =>
    rw [List.replicate_succ, List.flatMap_cons, List.length_append, ih]
    exact Nat.add_comm 1 n

/-- **A text is read back from its bytes.** -/
theorem decode_of_encode (text : String) : decode (encode text) = .ok text := by
  rw [decode, encode, decodeFrom_encodeChars]
  exact congrArg Except.ok String.ofList_toList

/-! ## What is read as a character

Reading is strict enough for the bytes of a character to be the ones that it is written with: the
marks are checked, and so are the first two bytes, which tell overlong sequences and surrogates. -/

theorem mark_of_isContinuation :
    ∀ n < 256, isContinuation (UInt8.ofNat n) = true → 0x80 ≤ n ∧ n < 0xC0 := by
  decide +kernel

theorem toNat_of_isContinuation {b : UInt8} (h : isContinuation b = true) :
    0x80 ≤ b.toNat ∧ b.toNat < 0xC0 := by
  have hmark := mark_of_isContinuation b.toNat b.toNat_lt
  rw [UInt8.ofNat_toNat] at hmark
  exact hmark h

theorem toNat_of_secondOfThree {first b : UInt8} (h : secondOfThree first b = true) :
    0x80 ≤ b.toNat ∧ b.toNat < 0xC0 ∧ (first.toNat = 0xE0 → 0xA0 ≤ b.toNat) ∧
      (first.toNat = 0xED → b.toNat < 0xA0) := by
  simp only [secondOfThree, beq_iff_eq, UInt8.le_iff_toNat_le, ← UInt8.toNat_inj,
    UInt8.reduceToNat] at h
  split at h
  · simp only [Bool.and_eq_true, decide_eq_true_eq] at h
    omega
  split at h <;>
  · simp only [Bool.and_eq_true, decide_eq_true_eq] at h
    omega

theorem toNat_of_secondOfFour {first b : UInt8} (h : secondOfFour first b = true) :
    0x80 ≤ b.toNat ∧ b.toNat < 0xC0 ∧ (first.toNat = 0xF0 → 0x90 ≤ b.toNat) ∧
      (first.toNat = 0xF4 → b.toNat < 0x90) := by
  simp only [secondOfFour, beq_iff_eq, UInt8.le_iff_toNat_le, ← UInt8.toNat_inj,
    UInt8.reduceToNat] at h
  split at h
  · simp only [Bool.and_eq_true, decide_eq_true_eq] at h
    omega
  split at h <;>
  · simp only [Bool.and_eq_true, decide_eq_true_eq] at h
    omega

/-- The low bits of a byte. -/
theorem toNat_and_mask (b : UInt8) : (b &&& 0x3F).toNat = b.toNat % 64 ∧
    (b &&& 0x1F).toNat = b.toNat % 32 ∧ (b &&& 0x0F).toNat = b.toNat % 16 ∧
      (b &&& 0x07).toNat = b.toNat % 8 := by
  simp only [UInt8.toNat_and]
  exact ⟨Nat.and_two_pow_sub_one_eq_mod b.toNat 6, Nat.and_two_pow_sub_one_eq_mod b.toNat 5,
    Nat.and_two_pow_sub_one_eq_mod b.toNat 4, Nat.and_two_pow_sub_one_eq_mod b.toNat 3⟩

/-- The code point that payload bits are put together to, if it is one. -/
theorem toNat_assemble {lead code : Nat} {tail : List UInt8}
    (hcode : tail.foldl (fun code b => code * 64 + b.toNat % 64) lead = code)
    (hvalid : code.isValidChar) : (assemble lead tail).val.toNat = code := by
  have hfold : tail.foldl (fun code b => code * 64 + (b &&& 0x3F).toNat) lead = code := by
    simpa only [fun b => (toNat_and_mask b).1] using hcode
  rw [assemble, hfold, Char.ofNat, dif_pos hvalid]
  rfl

theorem ofNat_eq {n : Nat} {b : UInt8} (h : n = b.toNat) : UInt8.ofNat n = b := by
  rw [h, UInt8.ofNat_toNat]

theorem encode_one {first : UInt8} (hfirst : first.toNat < 0x80) :
    String.utf8EncodeChar (assemble first.toNat []) = [first] := by
  have hcode : (assemble first.toNat []).val.toNat = first.toNat :=
    toNat_assemble rfl (Or.inl (by omega))
  simp only [String.utf8EncodeChar, hcode]
  rw [if_pos (by omega), UInt8.ofNat_toNat]

theorem encode_two {first b : UInt8} (hfirst : 0xC2 ≤ first.toNat ∧ first.toNat ≤ 0xDF)
    (hb : 0x80 ≤ b.toNat ∧ b.toNat < 0xC0) :
    String.utf8EncodeChar (assemble (first &&& 0x1F).toNat [b]) = [first, b] := by
  rw [(toNat_and_mask first).2.1]
  have hcode : (assemble (first.toNat % 32) [b]).val.toNat =
      first.toNat % 32 * 64 + b.toNat % 64 := toNat_assemble rfl (Or.inl (by omega))
  simp only [String.utf8EncodeChar, hcode]
  rw [if_neg (by omega), if_pos (by omega), ofNat_eq (b := first) (by omega),
    ofNat_eq (b := b) (by omega)]

theorem encode_three {first b c : UInt8} (hfirst : 0xE0 ≤ first.toNat ∧ first.toNat ≤ 0xEF)
    (hb : 0x80 ≤ b.toNat ∧ b.toNat < 0xC0 ∧ (first.toNat = 0xE0 → 0xA0 ≤ b.toNat) ∧
      (first.toNat = 0xED → b.toNat < 0xA0)) (hc : 0x80 ≤ c.toNat ∧ c.toNat < 0xC0) :
    String.utf8EncodeChar (assemble (first &&& 0x0F).toNat [b, c]) = [first, b, c] := by
  rw [(toNat_and_mask first).2.2.1]
  have hvalid : ((first.toNat % 16 * 64 + b.toNat % 64) * 64 + c.toNat % 64).isValidChar := by
    unfold Nat.isValidChar
    omega
  have hcode : (assemble (first.toNat % 16) [b, c]).val.toNat =
      (first.toNat % 16 * 64 + b.toNat % 64) * 64 + c.toNat % 64 := toNat_assemble rfl hvalid
  simp only [String.utf8EncodeChar, hcode]
  rw [if_neg (by omega), if_neg (by omega), if_pos (by omega), ofNat_eq (b := first) (by omega),
    ofNat_eq (b := b) (by omega), ofNat_eq (b := c) (by omega)]

theorem encode_four {first b c d : UInt8} (hfirst : 0xF0 ≤ first.toNat ∧ first.toNat ≤ 0xF4)
    (hb : 0x80 ≤ b.toNat ∧ b.toNat < 0xC0 ∧ (first.toNat = 0xF0 → 0x90 ≤ b.toNat) ∧
      (first.toNat = 0xF4 → b.toNat < 0x90)) (hc : 0x80 ≤ c.toNat ∧ c.toNat < 0xC0)
    (hd : 0x80 ≤ d.toNat ∧ d.toNat < 0xC0) :
    String.utf8EncodeChar (assemble (first &&& 0x07).toNat [b, c, d]) = [first, b, c, d] := by
  rw [(toNat_and_mask first).2.2.2]
  have hvalid : (((first.toNat % 8 * 64 + b.toNat % 64) * 64 + c.toNat % 64) * 64 +
      d.toNat % 64).isValidChar := by
    unfold Nat.isValidChar
    omega
  have hcode : (assemble (first.toNat % 8) [b, c, d]).val.toNat =
      ((first.toNat % 8 * 64 + b.toNat % 64) * 64 + c.toNat % 64) * 64 + d.toNat % 64 :=
    toNat_assemble rfl hvalid
  simp only [String.utf8EncodeChar, hcode]
  rw [if_neg (by omega), if_neg (by omega), if_neg (by omega), ofNat_eq (b := first) (by omega),
    ofNat_eq (b := b) (by omega), ofNat_eq (b := c) (by omega), ofNat_eq (b := d) (by omega)]

theorem toNat_of_between {low high b : UInt8} (h : (low ≤ b && b ≤ high) = true) :
    low.toNat ≤ b.toNat ∧ b.toNat ≤ high.toNat := by
  simpa only [Bool.and_eq_true, decide_eq_true_eq, UInt8.le_iff_toNat_le] using h

/-- **The bytes that are read as a character** are the ones it is written with. -/
theorem utf8EncodeChar_of_decodeChar {first : UInt8} {rest left : List UInt8} {c : Char}
    (h : decodeChar first rest = .ok (c, left)) :
    String.utf8EncodeChar c ++ left = first :: rest := by
  unfold decodeChar at h
  -- One case for each number of bytes; in each of them the tests that it passed are the marks.
  split at h
  · rename_i hfirst
    obtain ⟨rfl, rfl⟩ := Prod.mk.inj (Except.ok.inj h)
    rw [encode_one (UInt8.lt_iff_toNat_lt.mp hfirst)]
    rfl
  split at h
  · rename_i hfirst
    split at h
    · cases h
    split at h
    · rename_i hb
      obtain ⟨rfl, rfl⟩ := Prod.mk.inj (Except.ok.inj h)
      rw [encode_two (toNat_of_between hfirst) (toNat_of_isContinuation hb)]
      rfl
    · cases h
  split at h
  · rename_i hfirst
    split at h
    · cases h
    split at h
    · cases h
    rename_i hb
    split at h
    · cases h
    split at h
    · rename_i hc
      obtain ⟨rfl, rfl⟩ := Prod.mk.inj (Except.ok.inj h)
      rw [encode_three (toNat_of_between hfirst) (toNat_of_secondOfThree (by simpa using hb))
        (toNat_of_isContinuation hc)]
      rfl
    · cases h
  split at h
  · rename_i hfirst
    split at h
    · cases h
    split at h
    · cases h
    rename_i hb
    split at h
    · cases h
    split at h
    · cases h
    rename_i hc
    split at h
    · cases h
    split at h
    · rename_i hd
      obtain ⟨rfl, rfl⟩ := Prod.mk.inj (Except.ok.inj h)
      rw [encode_four (toNat_of_between hfirst) (toNat_of_secondOfFour (by simpa using hb))
        (toNat_of_isContinuation (by simpa using hc)) (toNat_of_isContinuation hd)]
      rfl
    · cases h
  · cases h

theorem encodeChars_of_decodeFrom {start : Nat} {bytes : List UInt8} {chars : List Char}
    (h : decodeFrom start bytes = .ok chars) : encodeChars chars = bytes := by
  -- One character may take several bytes, so the induction is on the number of bytes left.
  induction hlength : bytes.length using Nat.strongRecOn generalizing start bytes chars with
  | ind length ih =>
  subst hlength
  cases bytes with
  | nil =>
    rw [decodeFrom] at h
    obtain rfl := Except.ok.inj h
    rfl
  | cons first rest =>
    cases hread : decodeChar first rest with
    | error fault =>
      rw [decodeFrom] at h
      split at h
      · cases h
      · rename_i hok
        cases hread.symm.trans hok
    | ok read =>
      obtain ⟨c, left⟩ := read
      rw [decodeFrom_cons hread] at h
      cases hrest : decodeFrom (start + (rest.length + 1 - left.length)) left with
      | error fault =>
        rw [hrest] at h
        cases h
      | ok tail =>
        rw [hrest] at h
        obtain rfl := Except.ok.inj h
        have hle := length_le_of_decodeChar hread
        have htail := ih left.length (Nat.lt_succ_of_le hle) hrest rfl
        rw [← utf8EncodeChar_of_decodeChar hread, encodeChars, List.flatMap_cons, ← htail]
        rfl

/-- **The bytes that are read as a text** are the bytes of that text. -/
theorem encode_of_decode {bytes : List UInt8} {text : String} (h : decode bytes = .ok text) :
    encode text = bytes := by
  unfold decode at h
  cases hread : decodeFrom 0 bytes with
  | error fault =>
    rw [hread] at h
    cases h
  | ok chars =>
    rw [hread] at h
    obtain rfl := Except.ok.inj h
    rw [encode, String.toList_ofList]
    exact encodeChars_of_decodeFrom hread

end DartClient.Text.Utf8
