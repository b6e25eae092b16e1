import DartClient.Codec.Size
import DartClient.Proofs.Codec.Parts

/-!
# The two sizes of a codec

The exact size and the greatest size of a codec are computed by separate recursions. Both add up
the sizes of parts that stand in a row, and neither lets a sum or a product pass the greatest size.
Where there is an exact size it is also the greatest.

## Main definitions

* `rowSize?`: the sum of sizes.
* `Codec.declaredSize?`: the size that a codec itself declares.

## Main results

* `Codec.maxSize?_of_fixedSize?`: the greatest size extends the exact one.
* `Codec.declaredSize?_or_lt_of_fixedSize?`: a size that is computed stays below the limit.
-/

namespace DartClient

theorem checkedSize_eq_some_iff {m n : Nat} :
    checkedSize m = some n ↔ m = n ∧ m < sizeLimit := by
  unfold checkedSize
  split <;> grind

theorem lt_sizeLimit_of_checkedSize {m n : Nat} (h : checkedSize m = some n) : n < sizeLimit := by
  obtain ⟨rfl, hlt⟩ := checkedSize_eq_some_iff.mp h
  exact hlt

/-- The size of so many items, each of which has the same size. -/
theorem exists_factor_of_checkedSize {size? : Option Nat} {count n : Nat}
    (h : (do checkedSize ((← size?) * count)) = some n) :
    ∃ size, size? = some size ∧ size * count = n := by
  obtain ⟨size, hsize, hproduct⟩ := Option.bind_eq_some_iff.mp h
  exact ⟨size, hsize, (checkedSize_eq_some_iff.mp hproduct).1⟩

/-! ## Parts in a row -/

/-- The sum of sizes, if there is a size in every place and no sum is too great. -/
def rowSize? : List (Option Nat) → Option Nat
  | [] => some 0
  | size? :: sizes => do checkedSize ((← size?) + (← rowSize? sizes))

theorem rowSize?_cons_eq_some_iff {size? : Option Nat} {sizes : List (Option Nat)} {n : Nat} :
    rowSize? (size? :: sizes) = some n ↔
      ∃ m k, size? = some m ∧ rowSize? sizes = some k ∧ m + k = n ∧ n < sizeLimit := by
  simp only [rowSize?, Option.bind_eq_bind, Option.bind_eq_some_iff, checkedSize_eq_some_iff]
  grind

theorem lt_sizeLimit_of_rowSize? {sizes : List (Option Nat)} {n : Nat}
    (h : rowSize? sizes = some n) : n < sizeLimit := by
  cases sizes with
  | nil =>
    obtain rfl := Option.some.inj h
    decide
  | cons size? sizes =>
    obtain ⟨_, _, -, -, -, hlt⟩ := rowSize?_cons_eq_some_iff.mp h
    exact hlt

/-- A sum stays the same if sizes are replaced by sizes that extend them. -/
theorem rowSize?_mono {α : Type} {f g : α → Option Nat} : ∀ {items : List α} {n : Nat},
    (∀ item ∈ items, ∀ m, f item = some m → g item = some m) →
      rowSize? (items.map f) = some n → rowSize? (items.map g) = some n
  | [], _, _, h => h
  | item :: items, n, hsizes, h => by
    rw [List.map_cons] at h ⊢
    obtain ⟨m, k, hm, hk, hsum⟩ := rowSize?_cons_eq_some_iff.mp h
    have hrest := rowSize?_mono (fun item hitem => hsizes item (List.mem_cons_of_mem _ hitem)) hk
    exact rowSize?_cons_eq_some_iff.mpr
      ⟨m, k, hsizes item List.mem_cons_self m hm, hrest, hsum⟩

theorem fixedSizeOfItems_eq_rowSize? : ∀ items : List Codec,
    fixedSizeOfItems items = rowSize? (items.map Codec.fixedSize?)
  | [] => rfl
  | item :: items => by
    rw [fixedSizeOfItems, fixedSizeOfItems_eq_rowSize? items, List.map_cons, rowSize?]

theorem maxSizeOfItems_eq_rowSize? : ∀ items : List Codec,
    maxSizeOfItems items = rowSize? (items.map Codec.maxSize?)
  | [] => rfl
  | item :: items => by
    rw [maxSizeOfItems, maxSizeOfItems_eq_rowSize? items, List.map_cons, rowSize?]

/-- The names of fields do not count. -/
theorem fixedSizeOfFields_eq_items : ∀ fields : List FieldCodec,
    fixedSizeOfFields fields = fixedSizeOfItems (fields.map FieldCodec.codec)
  | [] => rfl
  | ⟨_, _⟩ :: fields => by
    rw [fixedSizeOfFields, fixedSizeOfFields_eq_items fields, List.map_cons, fixedSizeOfItems]

theorem maxSizeOfFields_eq_items : ∀ fields : List FieldCodec,
    maxSizeOfFields fields = maxSizeOfItems (fields.map FieldCodec.codec)
  | [] => rfl
  | ⟨_, _⟩ :: fields => by
    rw [maxSizeOfFields, maxSizeOfFields_eq_items fields, List.map_cons, maxSizeOfItems]

theorem Payload.fixedSize?_eq_items (payload : Payload) :
    payload.fixedSize? = fixedSizeOfItems payload.codecs := by
  cases payload with
  | empty | tuple => rfl
  | struct fields => exact fixedSizeOfFields_eq_items fields

theorem Payload.maxSize?_eq_items (payload : Payload) :
    payload.maxSize? = maxSizeOfItems payload.codecs := by
  cases payload with
  | empty | tuple => rfl
  | struct fields => exact maxSizeOfFields_eq_items fields

/-! ## Variants -/

theorem fixedSizesOfVariants_eq_map : ∀ variants : List VariantCodec,
    fixedSizesOfVariants variants =
      variants.map fun variant => fixedSizeOfItems variant.payload.codecs
  | [] => rfl
  | ⟨_, _, payload⟩ :: variants => by
    rw [fixedSizesOfVariants, fixedSizesOfVariants_eq_map variants, payload.fixedSize?_eq_items,
      List.map_cons]

theorem maxSizesOfVariants_eq_map : ∀ variants : List VariantCodec,
    maxSizesOfVariants variants =
      variants.map fun variant => maxSizeOfItems variant.payload.codecs
  | [] => rfl
  | ⟨_, _, payload⟩ :: variants => by
    rw [maxSizesOfVariants, maxSizesOfVariants_eq_map variants, payload.maxSize?_eq_items,
      List.map_cons]

/-- The common value stands in every place, and it is zero if there is none. -/
theorem commonSize?_eq_some_iff {sizes : List (Option Nat)} {n : Nat} :
    commonSize? sizes = some n ↔ (∀ size? ∈ sizes, size? = some n) ∧ (sizes = [] → n = 0) := by
  cases sizes with
  | nil => simp [commonSize?, eq_comm]
  | cons size? sizes =>
    cases size? with
    | none => simp [commonSize?]
    | some size => simp [commonSize?]; grind

theorem greatestSize?_cons_eq_some_iff {size? : Option Nat} {sizes : List (Option Nat)} {n : Nat} :
    greatestSize? (size? :: sizes) = some n ↔
      ∃ m k, size? = some m ∧ greatestSize? sizes = some k ∧ max m k = n := by
  cases size? with
  | none => simp [greatestSize?]
  | some m =>
    have hfold : ∀ rest : List Nat, (m :: rest).foldl max 0 = max m (rest.foldl max 0) := by
      intro rest
      rw [List.foldl_cons, Nat.max_comm, List.foldl_assoc]
    unfold greatestSize?
    rw [List.mapM_cons]
    cases sizes.mapM id with
    | none => simp
    | some rest => simp [hfold]

theorem exists_le_of_greatestSize? {n : Nat} : ∀ {sizes : List (Option Nat)},
    greatestSize? sizes = some n → ∀ size? ∈ sizes, ∃ m, size? = some m ∧ m ≤ n
  | size? :: sizes, h, other?, hmem => by
    obtain ⟨m, k, rfl, hrest, rfl⟩ := greatestSize?_cons_eq_some_iff.mp h
    rcases List.mem_cons.mp hmem with rfl | hmem
    · exact ⟨m, rfl, Nat.le_max_left m k⟩
    · obtain ⟨m', hm', hle⟩ := exists_le_of_greatestSize? hrest other? hmem
      exact ⟨m', hm', Nat.le_trans hle (Nat.le_max_right m k)⟩

/-- The greatest of equal sizes is their common value. -/
theorem greatestSize?_of_commonSize? {n : Nat} : ∀ {sizes : List (Option Nat)},
    commonSize? sizes = some n → greatestSize? sizes = some n
  | [], h => h
  | [size?], h => by
    obtain ⟨hall, -⟩ := commonSize?_eq_some_iff.mp h
    obtain rfl := hall size? List.mem_cons_self
    exact greatestSize?_cons_eq_some_iff.mpr ⟨n, 0, rfl, rfl, Nat.max_zero n⟩
  | size? :: next? :: sizes, h => by
    obtain ⟨hall, -⟩ := commonSize?_eq_some_iff.mp h
    -- The list without its head is not empty, so it has the same common value.
    have hrest : commonSize? (next? :: sizes) = some n :=
      commonSize?_eq_some_iff.mpr
        ⟨fun other? hmem => hall other? (List.mem_cons_of_mem _ hmem), fun hnil => by cases hnil⟩
    exact greatestSize?_cons_eq_some_iff.mpr ⟨n, n, hall size? List.mem_cons_self,
      greatestSize?_of_commonSize? hrest, Nat.max_self n⟩

/-- A common value stays the same if sizes are replaced by sizes that extend them. -/
theorem commonSize?_mono {α : Type} {f g : α → Option Nat} {items : List α} {n : Nat}
    (hsizes : ∀ item ∈ items, ∀ m, f item = some m → g item = some m)
    (h : commonSize? (items.map f) = some n) : commonSize? (items.map g) = some n := by
  obtain ⟨hall, hnil⟩ := commonSize?_eq_some_iff.mp h
  refine commonSize?_eq_some_iff.mpr ⟨fun size? hmem => ?_, fun hempty => hnil ?_⟩
  · obtain ⟨item, hitem, rfl⟩ := List.mem_map.mp hmem
    exact hsizes item hitem n (hall (f item) (List.mem_map_of_mem hitem))
  · rwa [List.map_eq_nil_iff] at hempty ⊢

/-! ## The greatest size extends the exact one -/

theorem Idl.NumberFormat.maxWidth_of_byteWidth? {format : Idl.NumberFormat} {width : Nat}
    (h : format.byteWidth? = some width) : format.maxWidth = width := by
  rw [Idl.NumberFormat.maxWidth, h, Option.getD_some]

namespace Codec

variable {codec : Codec} {n : Nat}

/-- Items in a row have a greatest size where they have an exact one. -/
theorem maxSizeOfItems_of_fixedSize {items : List Codec}
    (hitems : ∀ item ∈ items, ∀ m, item.fixedSize? = some m → item.maxSize? = some m)
    (h : fixedSizeOfItems items = some n) : maxSizeOfItems items = some n := by
  rw [fixedSizeOfItems_eq_rowSize?] at h
  rw [maxSizeOfItems_eq_rowSize?]
  exact rowSize?_mono hitems h

/-- **The greatest size extends the exact one.** -/
theorem maxSize?_of_fixedSize? (codec : Codec) :
    ∀ n, codec.fixedSize? = some n → codec.maxSize? = some n := by
  induction codec using induction_parts with
  | step codec ih =>
  intro n h
  cases codec
  case number format | boolean format => exact congrArg some (format.maxWidth_of_byteWidth? h)
  case option item flag isFixed =>
    cases isFixed
    case false => cases h
    case true =>
      simp only [fixedSize?, Option.bind_eq_bind, Option.bind_eq_some_iff] at h
      obtain ⟨width, hwidth, size, hsize, hsum⟩ := h
      simp only [maxSize?, flag.maxWidth_of_byteWidth? hwidth, ih item List.mem_cons_self size hsize]
      exact hsum
  case list item count | set item count =>
    cases count
    case fixed count =>
      simp only [fixedSize?, Option.bind_eq_bind, Option.bind_eq_some_iff] at h
      obtain ⟨size, hsize, hproduct⟩ := h
      simp only [maxSize?, ih item List.mem_cons_self size hsize]
      exact hproduct
    all_goals cases h
  case map key val count =>
    cases count
    case fixed count =>
      simp only [fixedSize?, Option.bind_eq_bind, Option.bind_eq_some_iff] at h
      obtain ⟨ksize, hk, vsize, hv, entry, hentry, hproduct⟩ := h
      simp only [maxSize?, ih key List.mem_cons_self ksize hk,
        ih val (List.mem_cons_of_mem key List.mem_cons_self) vsize hv, Option.bind_eq_bind,
        Option.bind_some, hentry]
      exact hproduct
    all_goals cases h
  case tuple items => exact maxSizeOfItems_of_fixedSize ih h
  case struct name fields =>
    simp only [fixedSize?, fixedSizeOfFields_eq_items] at h
    simp only [maxSize?, maxSizeOfFields_eq_items]
    exact maxSizeOfItems_of_fixedSize ih h
  case enum name size variants =>
    simp only [fixedSize?, fixedSizesOfVariants_eq_map, Option.bind_eq_bind,
      Option.bind_eq_some_iff] at h
    obtain ⟨payload, hpayload, width, hwidth, hsum⟩ := h
    -- All payloads have one size, so it is the greatest.
    have hvariants : ∀ variant ∈ variants, ∀ m,
        fixedSizeOfItems variant.payload.codecs = some m →
          maxSizeOfItems variant.payload.codecs = some m := by
      intro variant hvariant m hm
      refine maxSizeOfItems_of_fixedSize (fun item hitem => ih item ?_) hm
      exact List.mem_flatMap.mpr ⟨variant, hvariant, hitem⟩
    have hgreatest := greatestSize?_of_commonSize? (commonSize?_mono hvariants hpayload)
    simp only [maxSize?, maxSizesOfVariants_eq_map, hgreatest, size.maxWidth_of_byteWidth? hwidth]
    exact hsum
  all_goals exact h

/-! ## Sizes stay below the limit -/

/-- The size that a codec declares for itself and does not compute. -/
def declaredSize? : Codec → Option Nat
  | .string (.fixed size) | .bytes (.fixed size) | .fixedSize _ size => some size
  | _ => none

/-- **A size that is computed stays below the limit.** A sum or product beyond it has no size. -/
theorem declaredSize?_or_lt_of_fixedSize? (h : codec.fixedSize? = some n) :
    codec.declaredSize? = some n ∨ n < sizeLimit := by
  -- Sums and products are checked where they are made, and fixed lengths are declared.
  cases codec
  case number format | boolean format =>
    right
    cases format <;> cases h <;> decide
  case string length | bytes length =>
    cases length
    case fixed => exact .inl h
    all_goals cases h
  case fixedSize => exact .inl h
  case publicKey =>
    right
    obtain rfl := Option.some.inj h
    decide
  case tuple items =>
    right
    exact lt_sizeLimit_of_rowSize? ((fixedSizeOfItems_eq_rowSize? items).symm.trans h)
  case struct name fields =>
    right
    simp only [fixedSize?, fixedSizeOfFields_eq_items, fixedSizeOfItems_eq_rowSize?] at h
    exact lt_sizeLimit_of_rowSize? h
  case option item flag isFixed =>
    cases isFixed
    case false => cases h
    case true =>
      right
      simp only [fixedSize?, Option.bind_eq_bind, Option.bind_eq_some_iff] at h
      obtain ⟨_, -, _, -, hsum⟩ := h
      exact lt_sizeLimit_of_checkedSize hsum
  case list item count | set item count =>
    cases count
    case fixed count =>
      right
      obtain ⟨_, -, hproduct⟩ := Option.bind_eq_some_iff.mp h
      exact lt_sizeLimit_of_checkedSize hproduct
    all_goals cases h
  case typedArray item count =>
    right
    obtain ⟨_, -, hproduct⟩ := Option.bind_eq_some_iff.mp h
    exact lt_sizeLimit_of_checkedSize hproduct
  case map key val count =>
    cases count
    case fixed count =>
      right
      simp only [fixedSize?, Option.bind_eq_bind, Option.bind_eq_some_iff] at h
      obtain ⟨_, -, _, -, _, -, hproduct⟩ := h
      exact lt_sizeLimit_of_checkedSize hproduct
    all_goals cases h
  case enum name size variants =>
    right
    simp only [fixedSize?, Option.bind_eq_bind, Option.bind_eq_some_iff] at h
    obtain ⟨_, -, _, -, hsum⟩ := h
    exact lt_sizeLimit_of_checkedSize hsum
  all_goals cases h

end Codec

end DartClient
