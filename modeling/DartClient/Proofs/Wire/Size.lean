import DartClient.Proofs.Wire.Measure

/-!
# Sizes on the wire

The exact size of a codec is the number of bytes of every value, written or read, and the greatest
size is a bound of it. The two sizes are computed apart from writing and reading, and apart from
each other; both proofs are inductions along the parts of the codec, whose steps are what each kind
of codec measures.

## Main results

* `Codec.measures_of_fixedSize?`, `Codec.measures_of_maxSize?`: a codec measures both of its sizes.
* `Codec.length_eq_of_fixedSize`: the exact size is exact.
* `Codec.length_le_of_maxSize`: the greatest size is a bound and extends the exact one.
-/

namespace DartClient

open Step

namespace Codec

variable {R : Nat → Nat → Prop} {codec : Codec} {n : Nat}

/-! ## The exact size -/

/-- What has an exact size measures it in every order. -/
theorem measures_of_fixedSize? (hR : SizeOrder R) (codec : Codec) :
    ∀ n, codec.fixedSize? = some n → codec.Measures R n := by
  induction codec using induction_parts with
  | step codec ih =>
  intro n h
  cases codec
  case number => exact .number_of_byteWidth? hR h
  case boolean => exact .boolean hR (.number_of_byteWidth? hR h)
  case string length =>
    cases length <;> cases h
    exact .string hR n
  case bytes length =>
    cases length <;> cases h
    exact .bytes hR n
  case publicKey =>
    obtain rfl := Option.some.inj h
    exact .publicKey hR
  case option item flag isFixed =>
    cases isFixed
    case false => cases h
    case true =>
      simp only [fixedSize?, Option.bind_eq_bind, Option.bind_eq_some_iff] at h
      obtain ⟨width, hwidth, size, hsize, hsum⟩ := h
      obtain ⟨rfl, -⟩ := checkedSize_eq_some_iff.mp hsum
      -- The zeros of an absent value are as many as an item has bytes.
      have habsent : ∀ gap, item.padding? true = some gap → R gap size := by
        intro gap hgap
        obtain rfl := Option.some.inj (hsize.symm.trans hgap)
        exact hR.refl size
      exact .option hR (.number_of_byteWidth? hR hwidth) (ih item List.mem_cons_self size hsize)
        habsent
  case list item count =>
    cases count
    case fixed count =>
      obtain ⟨size, hsize, rfl⟩ := exists_factor_of_checkedSize h
      exact (ih item List.mem_cons_self size hsize).list hR count
    all_goals cases h
  case set item count =>
    cases count
    case fixed count =>
      obtain ⟨size, hsize, rfl⟩ := exists_factor_of_checkedSize h
      exact (ih item List.mem_cons_self size hsize).set hR count
    all_goals cases h
  case typedArray item count =>
    obtain ⟨size, hsize, rfl⟩ := exists_factor_of_checkedSize h
    exact (ih item List.mem_cons_self size hsize).typedArray hR count
  case map key val count =>
    cases count
    case fixed count =>
      simp only [fixedSize?, Option.bind_eq_bind, Option.bind_eq_some_iff] at h
      obtain ⟨ksize, hk, vsize, hv, entry, hentry, hproduct⟩ := h
      obtain ⟨rfl, -⟩ := checkedSize_eq_some_iff.mp hentry
      obtain ⟨rfl, -⟩ := checkedSize_eq_some_iff.mp hproduct
      exact .map hR (ih key List.mem_cons_self ksize hk)
        (ih val (List.mem_cons_of_mem key List.mem_cons_self) vsize hv) count
    all_goals cases h
  case tuple items =>
    exact .tuple hR (.of_rowSize? ih ((fixedSizeOfItems_eq_rowSize? items).symm.trans h))
  case struct name fields =>
    simp only [fixedSize?, fixedSizeOfFields_eq_items, fixedSizeOfItems_eq_rowSize?] at h
    exact .struct hR name (.of_rowSize? ih h)
  case enum name size variants =>
    simp only [fixedSize?, fixedSizesOfVariants_eq_map, Option.bind_eq_bind,
      Option.bind_eq_some_iff] at h
    obtain ⟨payload, hpayload, width, hwidth, hsum⟩ := h
    obtain ⟨rfl, -⟩ := checkedSize_eq_some_iff.mp hsum
    obtain ⟨hall, -⟩ := commonSize?_eq_some_iff.mp hpayload
    refine .enum hR name (.number_of_byteWidth? hR hwidth) fun variant hvariant => ?_
    have hrow := hall _ (List.mem_map_of_mem hvariant)
    rw [fixedSizeOfItems_eq_rowSize?] at hrow
    have hparts : ∀ item ∈ variant.payload.codecs, ∀ m, item.fixedSize? = some m →
        item.Measures R m :=
      fun item hitem => ih item (List.mem_flatMap.mpr ⟨variant, hvariant, hitem⟩)
    exact ⟨payload, .of_rowSize? hparts hrow, fun _ h => h⟩
  case fixedSize inner size =>
    obtain rfl := Option.some.inj h
    exact .fixedSize hR inner size
  all_goals cases h

/-! ## The greatest size -/

/-- What has a greatest size measures it as a bound. -/
theorem measures_of_maxSize? (codec : Codec) :
    ∀ n, codec.maxSize? = some n → codec.Measures (· ≤ ·) n := by
  induction codec using induction_parts with
  | step codec ih =>
  intro n h
  have hR := sizeOrder_le
  cases codec
  case number format =>
    obtain rfl := Option.some.inj h
    exact .number_maxWidth format
  case boolean format =>
    obtain rfl := Option.some.inj h
    exact .boolean hR (.number_maxWidth format)
  case option item flag isFixed =>
    obtain ⟨size, hsize, hsum⟩ := Option.bind_eq_some_iff.mp h
    obtain ⟨rfl, -⟩ := checkedSize_eq_some_iff.mp hsum
    -- An absent value is filled up with the exact size of the item, which is also its greatest.
    have habsent : ∀ gap, item.padding? isFixed = some gap → gap ≤ size := by
      intro gap hgap
      cases isFixed with
      | false =>
        obtain rfl := Option.some.inj hgap
        exact Nat.zero_le size
      | true =>
        have hmax := maxSize?_of_fixedSize? item gap hgap
        exact Nat.le_of_eq (Option.some.inj (hmax.symm.trans hsize))
    exact .option hR (.number_maxWidth flag) (ih item List.mem_cons_self size hsize) habsent
  case list item count =>
    cases count
    case fixed count =>
      obtain ⟨size, hsize, rfl⟩ := exists_factor_of_checkedSize h
      exact (ih item List.mem_cons_self size hsize).list hR count
    all_goals cases h
  case set item count =>
    cases count
    case fixed count =>
      obtain ⟨size, hsize, rfl⟩ := exists_factor_of_checkedSize h
      exact (ih item List.mem_cons_self size hsize).set hR count
    all_goals cases h
  case map key val count =>
    cases count
    case fixed count =>
      simp only [maxSize?, Option.bind_eq_bind, Option.bind_eq_some_iff] at h
      obtain ⟨ksize, hk, vsize, hv, entry, hentry, hproduct⟩ := h
      obtain ⟨rfl, -⟩ := checkedSize_eq_some_iff.mp hentry
      obtain ⟨rfl, -⟩ := checkedSize_eq_some_iff.mp hproduct
      exact .map hR (ih key List.mem_cons_self ksize hk)
        (ih val (List.mem_cons_of_mem key List.mem_cons_self) vsize hv) count
    all_goals cases h
  case tuple items =>
    exact .tuple hR (.of_rowSize? ih ((maxSizeOfItems_eq_rowSize? items).symm.trans h))
  case struct name fields =>
    simp only [maxSize?, maxSizeOfFields_eq_items, maxSizeOfItems_eq_rowSize?] at h
    exact .struct hR name (.of_rowSize? ih h)
  case enum name size variants =>
    simp only [maxSize?, maxSizesOfVariants_eq_map] at h
    obtain ⟨payload, hpayload, hsum⟩ := Option.bind_eq_some_iff.mp h
    obtain ⟨rfl, -⟩ := checkedSize_eq_some_iff.mp hsum
    refine .enum hR name (.number_maxWidth size) fun variant hvariant => ?_
    obtain ⟨k, hrow, hle⟩ := exists_le_of_greatestSize? hpayload _ (List.mem_map_of_mem hvariant)
    rw [maxSizeOfItems_eq_rowSize?] at hrow
    have hparts : ∀ item ∈ variant.payload.codecs, ∀ m, item.maxSize? = some m →
        item.Measures (· ≤ ·) m :=
      fun item hitem => ih item (List.mem_flatMap.mpr ⟨variant, hvariant, hitem⟩)
    exact ⟨k, .of_rowSize? hparts hrow, fun _ ha => Nat.le_trans ha hle⟩
  -- The other kinds of codec have the greatest size that they have as an exact one.
  all_goals exact measures_of_fixedSize? hR _ n h

/-! ## Encoding and decoding -/

/-- **The exact size is exact.** Every encoding has that many bytes, and everything that is decoded
takes that many bytes from the front of its input. Unless it is declared by the codec itself, it
stays below the limit. -/
theorem length_eq_of_fixedSize (h : codec.fixedSize? = some n) :
    (∀ value bytes, codec.encode value = .ok bytes → bytes.length = n) ∧
      (∀ input value rest, codec.read input = (.ok value, rest) →
        ∃ taken, input = taken ++ rest ∧ taken.length = n) ∧
      (codec.declaredSize? = some n ∨ n < sizeLimit) := by
  have hmeasures := measures_of_fixedSize? sizeOrder_eq codec n h
  refine ⟨fun value bytes hbytes => ?_, hmeasures.reads, declaredSize?_or_lt_of_fixedSize? h⟩
  exact hmeasures.writes value bytes (encode_eq_ok_iff.mp hbytes)

/-- A slot with an owner that may be absent and with two marks, written without an owner. -/
theorem length_eq_of_fixedSize_slot :
    let codec : Codec := .struct "Slot" [⟨"owner", .option .publicKey .u8 true⟩,
      ⟨"marks", .map (.number .u8) (.boolean .u8) (.fixed 2)⟩]
    let marks : Value := .map [(.unsigned 7, .bool true), (.unsigned 8, .bool false)]
    codec.fixedSize? = some 37 ∧
      codec.encode (.struct [("marks", marks), ("owner", .option none)]) =
        .ok (List.replicate 33 0 ++ [7, 1, 8, 0]) ∧
      ∀ value bytes, codec.encode value = .ok bytes → bytes.length = 37 := by
  intro codec marks
  have hsize : codec.fixedSize? = some 37 := by decide
  exact ⟨hsize, rfl, (length_eq_of_fixedSize hsize).1⟩

/-- **The greatest size is a bound, and it extends the exact size.** No encoding has more bytes, and
nothing that is decoded takes more bytes from the front of its input. -/
theorem length_le_of_maxSize (codec : Codec) :
    (∀ n, codec.fixedSize? = some n → codec.maxSize? = some n) ∧
      ∀ n, codec.maxSize? = some n →
        (∀ value bytes, codec.encode value = .ok bytes → bytes.length ≤ n) ∧
          ∀ input value rest, codec.read input = (.ok value, rest) →
            ∃ taken, input = taken ++ rest ∧ taken.length ≤ n := by
  refine ⟨maxSize?_of_fixedSize? codec, fun n h => ?_⟩
  have hmeasures := measures_of_maxSize? codec n h
  refine ⟨fun value bytes hbytes => ?_, hmeasures.reads⟩
  exact hmeasures.writes value bytes (encode_eq_ok_iff.mp hbytes)

/-- A move that is either nothing or a number of steps and a direction that may be absent. -/
theorem length_le_of_maxSize_move :
    let codec : Codec := .enum "Move" .u8 [⟨"Rest", 0, .empty⟩,
      ⟨"Walk", 1, .tuple [.number .shortU16, .option (.number .i16) .u8 false]⟩]
    codec.fixedSize? = none ∧ codec.maxSize? = some 7 ∧
      codec.encode (.enum 0 []) = .ok [0] ∧
      codec.encode (.enum 1 [.unsigned 65535, .option (some (.signed (-2)))]) =
        .ok [1, 255, 255, 3, 1, 254, 255] ∧
      ∀ value bytes, codec.encode value = .ok bytes → bytes.length ≤ 7 := by
  intro codec
  have hsize : codec.maxSize? = some 7 := by decide
  refine ⟨by decide, hsize, rfl, ?_, ((length_le_of_maxSize codec).2 7 hsize).1⟩
  have hsteps : shortBytes 65535 = [255, 255, 3] := by simp [shortBytes]
  simp [codec, encode, write, writeVariant, Payload.write, Payload.arity, writeItems, Step.andThen,
    writeNumber, writeUnsigned, writeSigned, writeShort, Value.unsigned?, Value.signed?, hsteps,
    littleEndian, twosComplement]

end Codec

end DartClient
