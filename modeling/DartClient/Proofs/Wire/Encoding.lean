import DartClient.Proofs.Wire.Writing

/-!
# What each codec writes

For each kind of codec: the values it writes, and the bytes of a value in terms of the bytes of
its parts.

## Main results

* `writes_option_iff`, `writes_list_iff`, `writes_struct_iff` and so on: one equivalence for each
  kind of codec.
* `writes_variant_iff`: the payload is that of the variant at the index.
* `Payload.write_eq`: a payload is written part by part.
-/

namespace DartClient

open Step

/-- The number of zeros that an absent option is filled up with. -/
def Codec.padding? (item : Codec) (isFixed : Bool) : Option Nat :=
  if isFixed then item.fixedSize? else some 0

variable {value : Value} {bytes : List UInt8}

theorem writes_boolean_iff {format : Idl.NumberFormat} :
    Writes ((Codec.boolean format).write value) bytes ↔
      ∃ flag, value = .bool flag ∧ Writes (writeNumber format (.unsigned flag.toNat)) bytes := by
  cases value <;> simp [Codec.write]

theorem writes_string_iff {length : Length} :
    Writes ((Codec.string length).write value) bytes ↔
      ∃ text, value = .string text ∧
        Writes (writeBytes length (Text.Utf8.encode text) "string") bytes := by
  cases value <;> simp [Codec.write]

theorem writes_bytes_iff {length : Length} :
    Writes ((Codec.bytes length).write value) bytes ↔
      ∃ data, value = .bytes data ∧ Writes (writeBytes length data "bytes") bytes := by
  cases value <;> simp [Codec.write]

theorem writes_publicKey_iff :
    Writes (Codec.publicKey.write value) bytes ↔
      ∃ address, value = .publicKey address ∧ bytes = address.bytes := by
  cases value <;> simp [Codec.write]

theorem writes_present_iff {item : Codec} {flag : Idl.NumberFormat} {isFixed : Bool} :
    Writes ((Codec.option item flag isFixed).write (.option (some value))) bytes ↔
      ∃ front back, Writes (writeNumber flag (.unsigned 1)) front ∧
        Writes (item.write value) back ∧ bytes = front ++ back :=
  writes_andThen_iff (writeNumber_appendsOnly flag _) (item.write_appendsOnly value)

theorem writes_absent_iff {item : Codec} {flag : Idl.NumberFormat} {isFixed : Bool} :
    Writes ((Codec.option item flag isFixed).write (.option none)) bytes ↔
      ∃ front size, Writes (writeNumber flag (.unsigned 0)) front ∧
        item.padding? isFixed = some size ∧ bytes = front ++ List.replicate size 0 := by
  simp only [Codec.write, Codec.padding?]
  have hflag := writeNumber_appendsOnly flag (.unsigned 0)
  cases isFixed with
  | false =>
    simp only [Bool.false_eq_true, if_false, Option.some.injEq, writes_done_iff,
      writes_andThen_iff hflag appendsOnly_done]
    grind
  | true =>
    cases hsize : item.fixedSize? with
    | none => simp [writes_andThen_iff hflag (appendsOnly_fail _)]
    | some size =>
      simp only [if_true, Option.some.injEq, writes_append_iff,
        writes_andThen_iff hflag (appendsOnly_append _)]
      grind

theorem writes_option_iff {item : Codec} {flag : Idl.NumberFormat} {isFixed : Bool} :
    Writes ((Codec.option item flag isFixed).write value) bytes ↔
      (∃ inner, value = .option (some inner) ∧
        ∃ front back, Writes (writeNumber flag (.unsigned 1)) front ∧
          Writes (item.write inner) back ∧ bytes = front ++ back) ∨
      (value = .option none ∧ ∃ front size, Writes (writeNumber flag (.unsigned 0)) front ∧
        item.padding? isFixed = some size ∧ bytes = front ++ List.replicate size 0) := by
  cases value
  case option inner =>
    cases inner with
    | none => simp [writes_absent_iff]
    | some inner => simp [writes_present_iff]
  all_goals simp [Codec.write]

theorem writes_list_iff {item : Codec} {count : Length} :
    Writes ((Codec.list item count).write value) bytes ↔
      ∃ items front back, value = .list items ∧
        Writes (writeCount count items.length "list") front ∧ Writes (each item.write items) back ∧
        bytes = front ++ back := by
  cases value
  case list items =>
    simp only [Codec.write, writes_andThen_iff (writeCount_appendsOnly count items.length "list")
      (appendsOnly_each item.write_appendsOnly items)]
    simp
  all_goals simp [Codec.write]

theorem writes_set_iff {item : Codec} {count : Length} :
    Writes ((Codec.set item count).write value) bytes ↔
      Writes ((Codec.list item count).write value) bytes := by
  cases value <;> simp [Codec.write]

theorem writes_typedArray_iff {item : Codec} {count : Nat} :
    Writes ((Codec.typedArray item count).write value) bytes ↔
      Writes ((Codec.list item (.fixed count)).write value) bytes := by
  cases value
  case list items =>
    simp only [Codec.write, writeCount]
    split
    · rfl
    · simp [writes_andThen_iff (appendsOnly_fail _) (appendsOnly_each item.write_appendsOnly items)]
  all_goals simp [Codec.write]

/-- Writes an entry of a map, the key in front of the value. -/
def Codec.writeEntry (key value : Codec) (entry : Value × Value) : Step Unit :=
  .andThen (key.write entry.1) fun _ => value.write entry.2

theorem Codec.writeEntry_appendsOnly (key value : Codec) (entry : Value × Value) :
    AppendsOnly (key.writeEntry value entry) :=
  (key.write_appendsOnly entry.1).andThen (value.write_appendsOnly entry.2)

theorem writes_entry_iff {key value : Codec} {entry : Value × Value} :
    Writes (key.writeEntry value entry) bytes ↔
      ∃ front back, Writes (key.write entry.1) front ∧ Writes (value.write entry.2) back ∧
        bytes = front ++ back :=
  writes_andThen_iff (key.write_appendsOnly entry.1) (value.write_appendsOnly entry.2)

theorem writes_map_iff {key val : Codec} {count : Length} :
    Writes ((Codec.map key val count).write value) bytes ↔
      ∃ entries front back, value = .map entries ∧
        Writes (writeCount count entries.length "map") front ∧
        Writes (each (key.writeEntry val) entries) back ∧ bytes = front ++ back := by
  cases value
  case map entries =>
    have hwrite : (Codec.map key val count).write (.map entries) =
        .andThen (writeCount count entries.length "map") fun _ =>
          each (key.writeEntry val) entries := rfl
    rw [hwrite, writes_andThen_iff (writeCount_appendsOnly count entries.length "map")
      (appendsOnly_each (key.writeEntry_appendsOnly val) entries)]
    simp
  all_goals simp [Codec.write]

theorem writes_tuple_iff {items : List Codec} :
    Writes ((Codec.tuple items).write value) bytes ↔
      ∃ values, value = .tuple values ∧ items.length = values.length ∧
        Writes (writeItems items values) bytes := by
  cases value
  case tuple values =>
    simp only [Codec.write]
    split <;> simp_all
  all_goals simp [Codec.write]

theorem writes_struct_iff {name : String} {fields : List FieldCodec} :
    Writes ((Codec.struct name fields).write value) bytes ↔
      ∃ values, value = .struct values ∧ Writes (writeFields fields values) bytes := by
  cases value <;> simp [Codec.write]

theorem writes_enum_iff {name : String} {size : Idl.NumberFormat} {variants : List VariantCodec} :
    Writes ((Codec.enum name size variants).write value) bytes ↔
      ∃ index values, value = .enum index values ∧
        Writes (writeVariant name size index values variants index) bytes := by
  cases value
  case enum index values =>
    simp only [Codec.write, Value.enum.injEq]
    constructor
    · intro h
      exact ⟨index, values, ⟨rfl, rfl⟩, h⟩
    · rintro ⟨_, _, ⟨rfl, rfl⟩, h⟩
      exact h
  all_goals simp [Codec.write]

theorem writes_sizePrefixed_iff {inner : Codec} {width : Idl.NumberFormat} :
    Writes ((Codec.sizePrefixed inner width).write value) bytes ↔
      ∃ front part, Writes (inner.write value) part ∧
        Writes (writeNumber width (.unsigned part.length)) front ∧ bytes = front ++ part := by
  rw [show (Codec.sizePrefixed inner width).write value = _ by rw [Codec.write],
    writes_buffered_iff (inner.write_appendsOnly value)]
  simp only [writes_andThen_iff (writeNumber_appendsOnly width _) (appendsOnly_append _),
    writes_append_iff]
  grind

theorem writes_fixedSize_iff {inner : Codec} {size : Nat} :
    Writes ((Codec.fixedSize inner size).write value) bytes ↔
      Writes (inner.write value) bytes ∧ bytes.length = size := by
  rw [show (Codec.fixedSize inner size).write value = _ by rw [Codec.write],
    writes_buffered_iff (inner.write_appendsOnly value)]
  constructor
  · rintro ⟨part, hpart, hnext⟩
    split at hnext
    · rename_i hlen
      obtain rfl := writes_append_iff.mp hnext
      exact ⟨hpart, hlen⟩
    · exact absurd hnext not_writes_fail
  · rintro ⟨hpart, hlen⟩
    exact ⟨bytes, hpart, by simp [hlen]⟩

theorem not_writes_defined {name : String} {kind : DefinedKind} :
    ¬ Writes ((Codec.defined name kind).write value) bytes := by
  simp [Codec.write]

theorem not_writes_unknown {kind : String} :
    ¬ Writes ((Codec.unknown kind).write value) bytes := by
  simp [Codec.write]

/-! ## Counts, bytes, items and fields -/

theorem writes_fixedCount_iff {expected actual : Nat} {place : String} :
    Writes (writeCount (.fixed expected) actual place) bytes ↔
      expected = actual ∧ bytes = [] := by
  simp only [writeCount]
  split <;> simp_all

theorem writes_fixedBytes_iff {size : Nat} {data : List UInt8} {place : String} :
    Writes (writeBytes (.fixed size) data place) bytes ↔ data.length = size ∧ bytes = data := by
  simp only [writeBytes]
  split <;> simp_all

theorem writes_prefixedBytes_iff {format : Idl.NumberFormat} {data : List UInt8} {place : String} :
    Writes (writeBytes (.prefixed format) data place) bytes ↔
      ∃ front, Writes (writeNumber format (.unsigned data.length)) front ∧
        bytes = front ++ data := by
  have h : Writes (writeBytes (.prefixed format) data place) bytes ↔ _ :=
    writes_andThen_iff (writeNumber_appendsOnly format (.unsigned data.length))
      (appendsOnly_append data)
  simp only [h, writes_append_iff]
  grind

theorem writes_remainderBytes_iff {data : List UInt8} {place : String} :
    Writes (writeBytes .remainder data place) bytes ↔ bytes = data := by
  have h : Writes (writeBytes .remainder data place) bytes ↔ _ :=
    writes_andThen_iff appendsOnly_done (appendsOnly_append data)
  simp only [h, writes_append_iff, writes_done_iff]
  grind

theorem writes_each_cons_iff {α : Type} {write : α → Step Unit} (h : ∀ a, AppendsOnly (write a))
    {item : α} {items : List α} :
    Writes (each write (item :: items)) bytes ↔
      ∃ front back, Writes (write item) front ∧ Writes (each write items) back ∧
        bytes = front ++ back :=
  writes_andThen_iff (h item) (appendsOnly_each h items)

theorem writes_items_cons_iff {item : Codec} {items : List Codec} {values : List Value} :
    Writes (writeItems (item :: items) (value :: values)) bytes ↔
      ∃ front back, Writes (item.write value) front ∧ Writes (writeItems items values) back ∧
        bytes = front ++ back :=
  writes_andThen_iff (item.write_appendsOnly value) (writeItems_appendsOnly items values)

theorem writes_fields_cons_iff {name : String} {codec : Codec} {fields : List FieldCodec}
    {values : List (String × Value)} :
    Writes (writeFields (⟨name, codec⟩ :: fields) values) bytes ↔
      ∃ value, values.lookup name = some value ∧
        ∃ front back, Writes (codec.write value) front ∧ Writes (writeFields fields values) back ∧
          bytes = front ++ back := by
  simp only [writeFields]
  cases values.lookup name with
  | none => simp
  | some value =>
    simp [writes_andThen_iff (codec.write_appendsOnly value)
      (writeFields_appendsOnly fields values)]

/-- The payload written is that of the variant at the index. -/
theorem writes_variant_iff {name : String} {size : Idl.NumberFormat} {index : Nat}
    {values : List Value} {variants : List VariantCodec} {position : Nat} :
    Writes (writeVariant name size index values variants position) bytes ↔
      ∃ variant, variants[position]? = some variant ∧ values.length = variant.payload.arity ∧
        ∃ front back, Writes (writeNumber size (.unsigned index)) front ∧
          Writes (variant.payload.write values) back ∧ bytes = front ++ back := by
  induction variants generalizing position with
  | nil => simp [writeVariant]
  | cons variant variants ih =>
    obtain ⟨_, _, payload⟩ := variant
    cases position with
    | zero =>
      simp only [writeVariant]
      split
      · simp_all [writes_andThen_iff (writeNumber_appendsOnly size (.unsigned index))
          (payload.write_appendsOnly values)]
      · simp_all
    | succ position =>
      simp only [writeVariant, List.getElem?_cons_succ]
      exact ih

/-! ## Payloads -/

/-- Fields are written with the values of their names and with nothing else. -/
theorem writeFields_congr {values values' : List (String × Value)} : ∀ {fields : List FieldCodec},
    (∀ field ∈ fields, values.lookup field.name = values'.lookup field.name) →
      writeFields fields values = writeFields fields values'
  | [], _ => rfl
  | ⟨name, codec⟩ :: fields, h => by
    have hhead := h _ List.mem_cons_self
    have htail : writeFields fields values = writeFields fields values' :=
      writeFields_congr fun field hfield => h field (List.mem_cons_of_mem _ hfield)
    simp only at hhead
    simp only [writeFields, hhead, htail]

/-- Fields of distinct names are written like items, if their values stand in their order. -/
theorem writeFields_zip : ∀ {fields : List FieldCodec} {values : List Value},
    (fields.map FieldCodec.name).Nodup → values.length = fields.length →
      writeFields fields ((fields.map FieldCodec.name).zip values) =
        writeItems (fields.map FieldCodec.codec) values
  | [], _, _, _ => rfl
  | ⟨name, codec⟩ :: fields, value :: values, hnames, hlen => by
    rw [List.map_cons, List.nodup_cons] at hnames
    have hrest := writeFields_zip hnames.2 (Nat.succ.inj hlen)
    have hcongr : writeFields fields ((name, value) :: (fields.map FieldCodec.name).zip values) =
        writeFields fields ((fields.map FieldCodec.name).zip values) := by
      refine writeFields_congr fun field hfield => ?_
      have hne : field.name ≠ name := by
        intro heq
        exact hnames.1 (List.mem_map.mpr ⟨field, hfield, heq⟩)
      rw [List.lookup_cons, beq_false_of_ne hne]
    simp only [List.map_cons, List.zip_cons_cons, writeFields, writeItems, List.lookup_cons,
      beq_self_eq_true, hcongr, hrest]

/-- **A payload is written part by part**, whether its parts have names or not. -/
theorem Payload.write_eq {payload : Payload} {values : List Value}
    (hnames : ∀ fields, payload = .struct fields → (fields.map FieldCodec.name).Nodup)
    (hlen : values.length = payload.arity) :
    payload.write values = writeItems payload.codecs values := by
  cases payload with
  | empty => rfl
  | tuple items => rfl
  | struct fields => exact writeFields_zip (hnames fields rfl) hlen

theorem Payload.length_codecs (payload : Payload) : payload.codecs.length = payload.arity := by
  cases payload with
  | empty => rfl
  | tuple items => rfl
  | struct fields => exact List.length_map _

end DartClient
