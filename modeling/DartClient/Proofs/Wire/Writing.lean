import DartClient.Wire.Encode

/-!
# Writing only appends

A writer leaves what is already written as it is and does not look at it. What it does is
therefore known from what it does on an empty buffer, and what two writers do one after the other
is known from what each of them does.

## Main definitions

* `Step.AppendsOnly`: a writer that only appends.
* `Step.Writes write bytes`: the writer succeeds and appends exactly these bytes.

## Main results

* `Codec.write_appendsOnly`: writing a value with a codec only appends.
* `Codec.encode_eq_ok_iff`: the bytes of a value are what writing it appends.
* `Codec.write_frame`: what writing leaves behind, also where it fails.
* `writes_andThen_iff`, `writes_buffered_iff`: what composed writers write.
-/

namespace DartClient

namespace Step

/-- A writer that leaves what is already written as it is, and does not look at it. -/
def AppendsOnly (write : Step Unit) : Prop :=
  ∀ out, write out = ((write []).1, out ++ (write []).2)

/-- The writer succeeds and appends exactly these bytes. -/
def Writes (write : Step Unit) (bytes : List UInt8) : Prop :=
  ∀ out, write out = (.ok (), out ++ bytes)

theorem appendsOnly_done : AppendsOnly (done ()) := fun out => by simp

theorem appendsOnly_fail (error : WireError) : AppendsOnly (fail error) := fun out => by simp

theorem appendsOnly_append (bytes : List UInt8) : AppendsOnly (append bytes) := fun out => by simp

theorem AppendsOnly.writes {write : Step Unit} (h : AppendsOnly write) {bytes : List UInt8}
    (hb : write [] = (.ok (), bytes)) : Writes write bytes := by
  intro out
  rw [h out, hb]

theorem Writes.apply_nil {write : Step Unit} {bytes : List UInt8} (h : Writes write bytes) :
    write [] = (.ok (), bytes) := h []

/-- A writer writes one byte string at most. -/
theorem Writes.unique {write : Step Unit} {bytes bytes' : List UInt8} (h : Writes write bytes)
    (h' : Writes write bytes') : bytes = bytes' :=
  (Prod.mk.inj (h.apply_nil.symm.trans h'.apply_nil)).2

theorem AppendsOnly.andThen {write next : Step Unit} (h : AppendsOnly write)
    (hnext : AppendsOnly next) : AppendsOnly (write.andThen fun _ => next) := by
  intro out
  simp only [Step.andThen]
  -- The second writer starts behind what the first one has appended.
  rw [h out]
  cases hw : write [] with
  | mk result bytes =>
    cases result with
    | error error => rfl
    | ok _ =>
      simp only
      rw [hnext (out ++ bytes), hnext bytes, List.append_assoc]

theorem appendsOnly_each {α : Type} {write : α → Step Unit} (h : ∀ a, AppendsOnly (write a)) :
    ∀ items : List α, AppendsOnly (each write items)
  | [] => appendsOnly_done
  | item :: items => (h item).andThen (appendsOnly_each h items)

theorem appendsOnly_buffered (write : Step Unit) {next : List UInt8 → Step Unit}
    (h : ∀ bytes, AppendsOnly (next bytes)) : AppendsOnly (buffered write next) := by
  unfold buffered
  rcases write [] with ⟨_ | _, bytes⟩
  · exact appendsOnly_fail _
  · exact h bytes

/-! ## What composed writers write -/

@[simp] theorem writes_done_iff {bytes : List UInt8} : Writes (done ()) bytes ↔ bytes = [] := by
  constructor
  · intro h
    exact (Prod.mk.inj h.apply_nil).2.symm
  · rintro rfl
    exact appendsOnly_done.writes rfl

@[simp] theorem writes_append_iff {part bytes : List UInt8} :
    Writes (append part) bytes ↔ bytes = part := by
  constructor
  · intro h
    exact (Prod.mk.inj h.apply_nil).2.symm
  · rintro rfl
    exact (appendsOnly_append bytes).writes rfl

@[simp] theorem not_writes_fail {error : WireError} {bytes : List UInt8} :
    ¬ Writes (fail error) bytes := by
  intro h
  simpa using h.apply_nil

theorem writes_andThen_iff {write next : Step Unit} (hw : AppendsOnly write)
    (hn : AppendsOnly next) {bytes : List UInt8} :
    Writes (write.andThen fun _ => next) bytes ↔
      ∃ front back, Writes write front ∧ Writes next back ∧ bytes = front ++ back := by
  constructor
  · intro h
    -- On the empty buffer it can be seen where the first writer stopped.
    have h₀ := h.apply_nil
    simp only [Step.andThen] at h₀
    cases hfront : write [] with
    | mk result front =>
      rw [hfront] at h₀
      cases result with
      | error error => simp at h₀
      | ok _ =>
        simp only [hn front] at h₀
        obtain ⟨hok, rfl⟩ := Prod.mk.inj h₀
        exact ⟨front, (next []).2, hw.writes hfront, hn.writes (Prod.ext hok rfl), rfl⟩
  · rintro ⟨front, back, hfront, hback, rfl⟩
    intro out
    simp only [Step.andThen, hfront out]
    rw [hback (out ++ front), List.append_assoc]

theorem writes_buffered_iff {write : Step Unit} (hw : AppendsOnly write)
    {next : List UInt8 → Step Unit} {bytes : List UInt8} :
    Writes (buffered write next) bytes ↔ ∃ part, Writes write part ∧ Writes (next part) bytes := by
  constructor
  · intro h
    unfold buffered at h
    cases hpart : write [] with
    | mk result part =>
      rw [hpart] at h
      cases result with
      | error error => exact absurd h not_writes_fail
      | ok _ => exact ⟨part, hw.writes hpart, h⟩
  · rintro ⟨part, hpart, hnext⟩
    unfold buffered
    rw [hpart.apply_nil]
    exact hnext

end Step

open Step

/-! ## Numbers, counts and bytes -/

theorem writeUnsigned_appendsOnly (format : Idl.NumberFormat) (width : Nat) (value : Value) :
    AppendsOnly (writeUnsigned format width value) := by
  unfold writeUnsigned
  split
  · exact appendsOnly_fail _
  · split
    · exact appendsOnly_append _
    · exact appendsOnly_fail _

theorem writeSigned_appendsOnly (format : Idl.NumberFormat) (width : Nat) (value : Value) :
    AppendsOnly (writeSigned format width value) := by
  unfold writeSigned
  split
  · exact appendsOnly_fail _
  · simp only
    split
    · exact appendsOnly_append _
    · exact appendsOnly_fail _

theorem writeFloat_appendsOnly (format : Idl.NumberFormat) (width : Nat)
    (bits : Number.Double → Nat) (value : Value) :
    AppendsOnly (writeFloat format width bits value) := by
  unfold writeFloat
  split
  · split
    · exact appendsOnly_fail _
    · exact appendsOnly_append _
  · exact appendsOnly_fail _

theorem writeShort_appendsOnly (value : Value) : AppendsOnly (writeShort value) := by
  unfold writeShort
  split
  · exact appendsOnly_fail _
  · split
    · exact appendsOnly_append _
    · exact appendsOnly_fail _

theorem writeNumber_appendsOnly (format : Idl.NumberFormat) (value : Value) :
    AppendsOnly (writeNumber format value) := by
  cases format
  case shortU16 => exact writeShort_appendsOnly value
  case f32 => exact writeFloat_appendsOnly _ _ _ value
  case f64 => exact writeFloat_appendsOnly _ _ _ value
  case u8 | u16 | u32 | u64 | u128 => exact writeUnsigned_appendsOnly _ _ value
  case i8 | i16 | i32 | i64 | i128 => exact writeSigned_appendsOnly _ _ value

theorem writeCount_appendsOnly (length : Length) (actual : Nat) (place : String) :
    AppendsOnly (writeCount length actual place) := by
  cases length with
  | prefixed format => exact writeNumber_appendsOnly format _
  | fixed expected =>
    simp only [writeCount]
    split
    · exact appendsOnly_done
    · exact appendsOnly_fail _
  | remainder => exact appendsOnly_done

theorem writeBytes_appendsOnly (length : Length) (bytes : List UInt8) (place : String) :
    AppendsOnly (writeBytes length bytes place) := by
  cases length with
  | fixed size =>
    simp only [writeBytes]
    split
    · exact appendsOnly_append _
    · exact appendsOnly_fail _
  | prefixed format =>
    exact (writeCount_appendsOnly _ _ _).andThen (appendsOnly_append bytes)
  | remainder =>
    exact (writeCount_appendsOnly .remainder bytes.length place).andThen (appendsOnly_append bytes)

/-! ## Values -/

mutual

/-- **Writing a value only appends**, whatever is written already. -/
theorem Codec.write_appendsOnly : ∀ (codec : Codec) (value : Value),
    AppendsOnly (codec.write value)
  | .number format, value => writeNumber_appendsOnly format value
  | .boolean format, value => by
    cases value
    case bool flag => exact writeNumber_appendsOnly format _
    all_goals exact appendsOnly_fail _
  | .string length, value => by
    cases value
    case string text => exact writeBytes_appendsOnly length _ _
    all_goals exact appendsOnly_fail _
  | .bytes length, value => by
    cases value
    case bytes bytes => exact writeBytes_appendsOnly length bytes _
    all_goals exact appendsOnly_fail _
  | .publicKey, value => by
    cases value
    case publicKey address => exact appendsOnly_append _
    all_goals exact appendsOnly_fail _
  | .option item flag isFixed, value => by
    cases value
    case option value =>
      cases value with
      | some value =>
        exact (writeNumber_appendsOnly flag _).andThen (item.write_appendsOnly value)
      | none =>
        refine (writeNumber_appendsOnly flag (.unsigned 0)).andThen ?_
        -- The gap of a fixed option is filled with zeros, if its size is known.
        split
        · split
          · exact appendsOnly_append _
          · exact appendsOnly_fail _
        · exact appendsOnly_done
    all_goals exact appendsOnly_fail _
  | .list item count, value | .set item count, value => by
    cases value
    case list items =>
      exact (writeCount_appendsOnly count _ _).andThen (appendsOnly_each item.write_appendsOnly _)
    all_goals exact appendsOnly_fail _
  | .typedArray item count, value => by
    cases value
    case list items =>
      exact (writeCount_appendsOnly (.fixed count) _ _).andThen
        (appendsOnly_each item.write_appendsOnly items)
    all_goals exact appendsOnly_fail _
  | .map key value count, entries => by
    cases entries
    case map entries =>
      refine (writeCount_appendsOnly count _ _).andThen (appendsOnly_each ?_ entries)
      rintro ⟨k, v⟩
      exact (key.write_appendsOnly k).andThen (value.write_appendsOnly v)
    all_goals exact appendsOnly_fail _
  | .tuple items, value => by
    cases value
    case tuple values =>
      simp only [Codec.write]
      split
      · exact writeItems_appendsOnly items values
      · exact appendsOnly_fail _
    all_goals exact appendsOnly_fail _
  | .struct name fields, value => by
    cases value
    case struct values => exact writeFields_appendsOnly fields values
    all_goals exact appendsOnly_fail _
  | .enum name size variants, value => by
    cases value
    case enum index values =>
      exact writeVariant_appendsOnly name size index values variants index
    all_goals exact appendsOnly_fail _
  | .sizePrefixed inner width, value => by
    simp only [Codec.write]
    refine appendsOnly_buffered _ fun bytes => ?_
    exact (writeNumber_appendsOnly width _).andThen (appendsOnly_append bytes)
  | .fixedSize inner size, value => by
    simp only [Codec.write]
    refine appendsOnly_buffered _ fun bytes => ?_
    split
    · exact appendsOnly_append bytes
    · exact appendsOnly_fail _
  | .defined _ _, _ | .unknown _, _ => appendsOnly_fail _

theorem writeItems_appendsOnly : ∀ (items : List Codec) (values : List Value),
    AppendsOnly (writeItems items values)
  | item :: items, value :: values =>
    (item.write_appendsOnly value).andThen (writeItems_appendsOnly items values)
  | [], _ => appendsOnly_done
  | _ :: _, [] => appendsOnly_done

theorem writeFields_appendsOnly : ∀ (fields : List FieldCodec) (values : List (String × Value)),
    AppendsOnly (writeFields fields values)
  | [], _ => appendsOnly_done
  | ⟨name, codec⟩ :: fields, values => by
    simp only [writeFields]
    split
    · exact (codec.write_appendsOnly _).andThen (writeFields_appendsOnly fields values)
    · exact appendsOnly_fail _

theorem writeVariant_appendsOnly (name : String) (size : Idl.NumberFormat) (index : Nat)
    (values : List Value) : ∀ (variants : List VariantCodec) (position : Nat),
    AppendsOnly (writeVariant name size index values variants position)
  | [], _ => appendsOnly_fail _
  | ⟨_, _, payload⟩ :: _, 0 => by
    simp only [writeVariant]
    split
    · exact (writeNumber_appendsOnly size _).andThen (payload.write_appendsOnly values)
    · exact appendsOnly_fail _
  | ⟨_, _, _⟩ :: variants, position + 1 =>
    writeVariant_appendsOnly name size index values variants position

theorem Payload.write_appendsOnly (values : List Value) : ∀ payload : Payload,
    AppendsOnly (payload.write values)
  | .empty => appendsOnly_done
  | .tuple items => writeItems_appendsOnly items values
  | .struct fields => writeFields_appendsOnly fields _

end

/-- The bytes of a value are what writing it appends. -/
theorem Codec.encode_eq_ok_iff {codec : Codec} {value : Value} {bytes : List UInt8} :
    codec.encode value = .ok bytes ↔ Writes (codec.write value) bytes := by
  constructor
  · intro h
    unfold Codec.encode at h
    split at h
    · rename_i written hw
      obtain rfl := Except.ok.inj h
      exact (codec.write_appendsOnly value).writes hw
    · cases h
  · intro h
    unfold Codec.encode
    rw [h.apply_nil]

/-- **What writing leaves behind is what was there and what was appended.** To every codec and value
there are a result and bytes such that, whatever is written already, writing the value has this
result and leaves these bytes behind what is there, also where it fails. If it succeeds, they are
the bytes of the value, and if it fails, encoding the value fails for the same reason. -/
theorem Codec.write_frame (codec : Codec) (value : Value) :
    ∃ (result : Except WireError Unit) (appended : List UInt8),
      (∀ written, codec.write value written = (result, written ++ appended)) ∧
      (∀ bytes, codec.encode value = .ok bytes ↔ result = .ok () ∧ bytes = appended) ∧
      ∀ error, codec.encode value = .error error ↔ result = .error error := by
  refine ⟨(codec.write value []).1, (codec.write value []).2, codec.write_appendsOnly value, ?_⟩
  unfold Codec.encode
  -- Encoding writes to an empty buffer and drops what a failure leaves there.
  rcases codec.write value [] with ⟨error | ⟨⟩, appended⟩
  · simp
  · simp [eq_comm]

end DartClient
