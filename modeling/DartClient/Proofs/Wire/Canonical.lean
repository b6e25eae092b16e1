import DartClient.Proofs.Codec.Parts
import DartClient.Proofs.Wire.Number
import DartClient.Wire.Encode

/-!
# Closed codecs and canonical values

A codec that takes the rest of its input can only be read back where the input ends with it. It is
closed if that is so for every part of it: below a size wrapper the input of a part is cut to the
bytes that belong to it. Not everything that is put into a value is written, and what is written
does not tell the sort of an integer; the canonical form of a value is what comes back.

## Main definitions

* `Codec.places`: which parts of a value are written with which parts of a codec.
* `Codec.Closed`, `Codec.TakesRest`: the codecs that can be read back in front of other bytes, and
  those that can be read back at the end of the input.
* `Codec.canonical`: the value that comes back.
* `Codec.DistinctNames`, `Codec.Sized`, `Codec.FloatsExact`: what a value and a codec must be like.
-/

namespace DartClient

/-! ## Places -/

/-- The codec and the value of each field that has a value. -/
def placesOfFields (fields : List FieldCodec) (values : List (String × Value)) :
    List (Codec × Value) :=
  fields.filterMap fun field => (values.lookup field.name).map fun value => (field.codec, value)

namespace Codec

/-- The parts of a value that are written with the parts of a codec, each with that part. -/
def places : Codec → Value → List (Codec × Value)
  | .option item _ _, .option (some value) => [(item, value)]
  | .list item _, .list values | .set item _, .list values | .typedArray item _, .list values =>
    values.map fun value => (item, value)
  | .map key value _, .map entries => entries.flatMap fun (k, v) => [(key, k), (value, v)]
  | .tuple items, .tuple values => items.zip values
  | .struct _ fields, .struct values => placesOfFields fields values
  | .enum _ _ variants, .enum index values =>
    match variants[index]? with
    | some variant => variant.payload.codecs.zip values
    | none => []
  | .sizePrefixed inner _, value | .fixedSize inner _, value => [(inner, value)]
  | _, _ => []

theorem places_set (item : Codec) (count : Length) (value : Value) :
    (Codec.set item count).places value = (Codec.list item count).places value := by
  cases value <;> rfl

theorem places_typedArray (item : Codec) (count : Nat) (value : Value) :
    (Codec.typedArray item count).places value = (Codec.list item (.fixed count)).places value := by
  cases value <;> rfl

theorem places_enum {name : String} {size : Idl.NumberFormat} {variants : List VariantCodec}
    {variant : VariantCodec} {index : Nat} {values : List Value}
    (h : variants[index]? = some variant) :
    (Codec.enum name size variants).places (.enum index values) =
      variant.payload.codecs.zip values := by
  show (match variants[index]? with
    | some variant => variant.payload.codecs.zip values
    | none => []) = _
  rw [h]

/-- A property of all the places at which a value is written with a codec, however deep. -/
inductive Everywhere (P : Codec → Value → Prop) : Codec → Value → Prop
  | intro {codec : Codec} {value : Value} (here : P codec value)
      (below : ∀ place ∈ codec.places value, Everywhere P place.1 place.2) :
      Everywhere P codec value

theorem Everywhere.here {P : Codec → Value → Prop} {codec : Codec} {value : Value}
    (h : Everywhere P codec value) : P codec value := by
  cases h
  assumption

theorem Everywhere.at_place {P : Codec → Value → Prop} {codec : Codec} {value : Value}
    (h : Everywhere P codec value) {place : Codec × Value} (hplace : place ∈ codec.places value) :
    Everywhere P place.1 place.2 := by
  cases h with
  | intro _ below => exact below place hplace

/-- A place is written with a part of the codec. -/
theorem fst_mem_parts {codec : Codec} {value : Value} {place : Codec × Value}
    (h : place ∈ codec.places value) : place.1 ∈ codec.parts := by
  have hsingle : ∀ {item : Codec} {values : List Value},
      place ∈ values.map (fun value => (item, value)) → place.1 ∈ [item] := by
    intro item values hplace
    obtain ⟨value, -, rfl⟩ := List.mem_map.mp hplace
    exact List.mem_singleton.mpr rfl
  -- Places of lists, maps and payloads repeat the codecs of their items.
  cases codec
  case sizePrefixed | fixedSize => simp_all [places, parts]
  case option =>
    cases value
    case option value => cases value <;> simp_all [places, parts]
    all_goals cases h
  case list | set | typedArray =>
    cases value
    case list values => exact hsingle h
    all_goals cases h
  case map =>
    cases value
    case map entries =>
      obtain ⟨⟨k, v⟩, -, hplace⟩ := List.mem_flatMap.mp h
      simp only [List.mem_cons, List.not_mem_nil, or_false] at hplace
      rcases hplace with rfl | rfl <;> simp [parts]
    all_goals cases h
  case tuple =>
    cases value
    case tuple values => exact (List.of_mem_zip h).1
    all_goals cases h
  case struct =>
    cases value
    case struct values =>
      obtain ⟨field, hfield, hvalue⟩ := List.mem_filterMap.mp h
      obtain ⟨value, -, rfl⟩ := Option.map_eq_some_iff.mp hvalue
      exact List.mem_map_of_mem hfield
    all_goals cases h
  case enum name size variants =>
    cases value
    case enum index values =>
      simp only [places] at h
      split at h
      · rename_i variant hvariant
        exact List.mem_flatMap.mpr
          ⟨variant, List.mem_of_getElem? hvariant, (List.of_mem_zip h).1⟩
      · cases h
    all_goals cases h
  all_goals cases h

/-! ## Closed codecs -/

/-- The items of a list, set or map take at least one byte each; the key and the value of an entry
count together. -/
def ItemsTakeBytes : Codec → Prop
  | .list item _ | .set item _ => ∀ value, item.encode value ≠ .ok []
  | .map key value _ => ∀ k v, ¬ (key.encode k = .ok [] ∧ value.encode v = .ok [])
  | _ => True

/-- A codec that takes the rest of the input takes it only where the rest is cut off by a size
wrapper. -/
inductive Closed : Codec → Prop
  /-- A codec that itself does not take the rest. -/
  | bounded {codec : Codec} (hlength : codec.length? ≠ some .remainder)
      (hparts : ∀ part ∈ codec.parts, Closed part) : Closed codec
  /-- A codec that takes the rest, behind the number of its bytes. -/
  | sizePrefixed {inner : Codec} {width : Idl.NumberFormat}
      (hlength : inner.length? = some .remainder) (hparts : ∀ part ∈ inner.parts, Closed part)
      (hitems : inner.ItemsTakeBytes) : Closed (.sizePrefixed inner width)
  /-- A codec that takes the rest, of a fixed number of bytes. -/
  | fixedSize {inner : Codec} {size : Nat}
      (hlength : inner.length? = some .remainder) (hparts : ∀ part ∈ inner.parts, Closed part)
      (hitems : inner.ItemsTakeBytes) : Closed (.fixedSize inner size)

/-- A text, bytes or items up to the end of the input, of closed parts. -/
structure TakesRest (codec : Codec) : Prop where
  /-- The length is not stored. -/
  length : codec.length? = some .remainder
  /-- The parts are closed. -/
  parts : ∀ part ∈ codec.parts, part.Closed
  /-- No item is read for ever. -/
  items : codec.ItemsTakeBytes

/-! ## What a value and a codec must be like -/

/-- The names of the fields of a struct, and those of the payload of a variant, are distinct. -/
def OwnNamesDistinct : Codec → Prop
  | .struct _ fields => (fields.map FieldCodec.name).Nodup
  | .enum _ _ variants => ∀ variant ∈ variants, ∀ fields, variant.payload = .struct fields →
      (fields.map FieldCodec.name).Nodup
  | _ => True

/-- Names are distinct in the codec and in all of its parts. -/
inductive DistinctNames : Codec → Prop
  | intro {codec : Codec} (own : codec.OwnNamesDistinct)
      (parts : ∀ part ∈ codec.parts, DistinctNames part) : DistinctNames codec

theorem DistinctNames.own {codec : Codec} (h : codec.DistinctNames) : codec.OwnNamesDistinct := by
  cases h
  assumption

theorem DistinctNames.of_part {codec part : Codec} (h : codec.DistinctNames)
    (hpart : part ∈ codec.parts) : part.DistinctNames := by
  cases h with
  | intro _ parts => exact parts part hpart

end Codec

/-- The number of items of a list or map, or the index of a variant. -/
def Value.extent : Value → Nat
  | .list items => items.length
  | .map entries => entries.length
  | .enum index _ => index
  | _ => 0

namespace Codec

/-- Numbers of items and indices of variants are sizes. -/
def Sized : Codec → Value → Prop := Everywhere fun _ value => value.extent < sizeLimit

/-- The floating point numbers that are written in single precision are numbers in single
precision. -/
def FloatsExact : Codec → Value → Prop :=
  Everywhere fun codec value => codec = .number .f32 → ∀ x, value = .float x → x.IsSingle

/-! ## Canonical values -/

mutual

/-- The value that comes back for a value. -/
def canonical : Codec → Value → Value
  | .number format, value => canonicalNumber format value
  | .option item _ _, .option (some value) => .option (some (item.canonical value))
  | .list item _, .list values | .set item _, .list values | .typedArray item _, .list values =>
    .list (values.map item.canonical)
  | .map key value _, .map entries =>
    .map (entries.map fun (k, v) => (key.canonical k, value.canonical v))
  | .tuple items, .tuple values => .tuple (canonicalItems items values)
  | .struct _ fields, .struct values => .struct (canonicalFields fields values)
  | .enum _ _ variants, .enum index values =>
    .enum index (canonicalVariant variants index values)
  | .sizePrefixed inner _, value | .fixedSize inner _, value => inner.canonical value
  | _, value => value

/-- The items that come back. -/
def canonicalItems : List Codec → List Value → List Value
  | item :: items, value :: values => item.canonical value :: canonicalItems items values
  | _, _ => []

/-- The fields that come back, in the order of the codec. -/
def canonicalFields : List FieldCodec → List (String × Value) → List (String × Value)
  | [], _ => []
  | ⟨name, codec⟩ :: fields, values =>
    match values.lookup name with
    | some value => (name, codec.canonical value) :: canonicalFields fields values
    | none => canonicalFields fields values

/-- The payload that comes back for the variant at a position of a list. -/
def canonicalVariant : List VariantCodec → Nat → List Value → List Value
  | [], _, _ => []
  | ⟨_, _, payload⟩ :: _, 0, values => canonicalPayload payload values
  | _ :: variants, position + 1, values => canonicalVariant variants position values

/-- The payload that comes back. -/
def canonicalPayload : Payload → List Value → List Value
  | .empty, _ => []
  | .tuple items, values => canonicalItems items values
  | .struct fields, values => canonicalParts fields values

/-- The values of named fields that come back for values in their order. -/
def canonicalParts : List FieldCodec → List Value → List Value
  | ⟨_, codec⟩ :: fields, value :: values =>
    codec.canonical value :: canonicalParts fields values
  | _, _ => []

end

@[simp] theorem length_canonicalItems : ∀ (items : List Codec) (values : List Value),
    (canonicalItems items values).length = min items.length values.length
  | [], _ => by simp [canonicalItems]
  | _ :: _, [] => by simp [canonicalItems]
  | _ :: items, _ :: values => by
    simp [canonicalItems, length_canonicalItems items values]

theorem canonicalParts_eq : ∀ (fields : List FieldCodec) (values : List Value),
    canonicalParts fields values = canonicalItems (fields.map FieldCodec.codec) values
  | [], _ => rfl
  | ⟨_, _⟩ :: _, [] => rfl
  | ⟨_, codec⟩ :: fields, value :: values => by
    rw [List.map_cons, canonicalItems, canonicalParts, canonicalParts_eq fields values]

/-- A payload comes back part by part. -/
theorem canonicalPayload_eq (payload : Payload) (values : List Value) :
    canonicalPayload payload values = canonicalItems payload.codecs values := by
  cases payload with
  | empty => rfl
  | tuple items => rfl
  | struct fields => exact canonicalParts_eq fields values

theorem canonicalVariant_eq {variant : VariantCodec} {values : List Value} :
    ∀ {variants : List VariantCodec} {position : Nat}, variants[position]? = some variant →
      canonicalVariant variants position values = canonicalItems variant.payload.codecs values
  | ⟨_, _, payload⟩ :: _, 0, h => by
    obtain rfl := Option.some.inj h
    exact canonicalPayload_eq payload values
  | ⟨_, _, _⟩ :: variants, position + 1, h => by
    have hrest : canonicalVariant variants position values = _ := canonicalVariant_eq h
    exact hrest

theorem canonical_enum {name : String} {size : Idl.NumberFormat} {variants : List VariantCodec}
    {variant : VariantCodec} {index : Nat} {values : List Value}
    (h : variants[index]? = some variant) :
    (Codec.enum name size variants).canonical (.enum index values) =
      .enum index (canonicalItems variant.payload.codecs values) :=
  congrArg (Value.enum index) (canonicalVariant_eq h)

theorem canonicalFields_cons {name : String} {codec : Codec} {fields : List FieldCodec}
    {values : List (String × Value)} {value : Value} (h : values.lookup name = some value) :
    canonicalFields (⟨name, codec⟩ :: fields) values =
      (name, codec.canonical value) :: canonicalFields fields values := by
  rw [canonicalFields, h]

theorem lookup_canonicalFields {fields : List FieldCodec} {values : List (String × Value)}
    {field : FieldCodec} {value : Value} (hnames : (fields.map FieldCodec.name).Nodup)
    (hfield : field ∈ fields) (hvalue : values.lookup field.name = some value) :
    (canonicalFields fields values).lookup field.name = some (field.codec.canonical value) := by
  induction fields with
  | nil => cases hfield
  | cons head fields ih =>
    obtain ⟨name, codec⟩ := head
    rw [List.map_cons, List.nodup_cons] at hnames
    -- The name of a later field is not that of the head, so the head is passed over.
    rcases List.mem_cons.mp hfield with rfl | hmem
    · simp only at hvalue
      simp [canonicalFields, hvalue]
    · have hne : field.name ≠ name := by
        intro heq
        exact hnames.1 (List.mem_map.mpr ⟨field, hmem, heq⟩)
      have hrest := ih hnames.2 hmem
      rw [canonicalFields]
      split
      · rw [List.lookup_cons, beq_false_of_ne hne]
        exact hrest
      · exact hrest

end Codec

end DartClient
