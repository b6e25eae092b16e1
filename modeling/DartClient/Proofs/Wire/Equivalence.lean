import Mathlib.Data.List.Forall2
import DartClient.Proofs.Wire.Encoding
import DartClient.Proofs.Wire.Number
import DartClient.Proofs.Wire.Reading

/-!
# Codecs with the same wire format

Two codecs have the same wire format if they write every value to the same bytes and read every
input to the same value with the same rest; they may fail for different reasons and may name
their classes differently. Every kind of codec keeps the wire format if its parts keep theirs. A
size around bytes is the length of the bytes, and a list of a fixed number of items is a typed
list.

## Main definitions

* `Step.SameWrites`, `Step.SameReads`: writers and readers that cannot be told apart.
* `Codec.SameWire`: codecs with the same wire format.

## Main results

* `SameReads.bind`, `sameReads_untilEmpty`: readers made of readers.
* `SameWire.option`, `SameWire.list`, `SameWire.struct` and so on: one for each kind of codec.
* `SameWire.fixedBytes`, `SameWire.fixedText`, `SameWire.typedArray_list` and so on: other spellings
  of a codec.
-/

namespace DartClient

namespace Step

variable {α β : Type}

/-- The writers write the same bytes, or both fail. -/
def SameWrites (write write' : Step Unit) : Prop :=
  ∀ bytes, Writes write bytes ↔ Writes write' bytes

/-- The readers give the same value and leave the same rest, or both fail. -/
def SameReads (read read' : Step α) : Prop :=
  ∀ input a rest, read input = (.ok a, rest) ↔ read' input = (.ok a, rest)

theorem SameWrites.refl (write : Step Unit) : SameWrites write write := fun _ => Iff.rfl

theorem SameReads.refl (read : Step α) : SameReads read read := fun _ _ _ => Iff.rfl

theorem sameReads_fail (error error' : WireError) :
    SameReads (fail error : Step α) (fail error') := by
  intro input a rest
  simp

theorem step_bind_assoc {γ : Type} (read : Step α) (f : α → Step β) (g : β → Step γ) :
    (read >>= f) >>= g = read >>= fun a => f a >>= g := by
  funext input
  simp only [bind_apply]
  cases read input with
  | mk result rest => cases result <;> rfl

/-- A sequence succeeds if both of its steps do. -/
theorem bind_eq_ok_iff {read : Step α} {next : α → Step β} {input rest : List UInt8} {b : β} :
    (read >>= next) input = (.ok b, rest) ↔
      ∃ a mid, read input = (.ok a, mid) ∧ next a mid = (.ok b, rest) := by
  rw [bind_apply]
  cases hread : read input with
  | mk result mid =>
    cases result with
    | error error => simp
    | ok a =>
      constructor
      · intro h
        exact ⟨a, mid, rfl, h⟩
      · rintro ⟨a', mid', heq, h⟩
        obtain ⟨ha, rfl⟩ := Prod.mk.inj heq
        obtain rfl := Except.ok.inj ha
        exact h

theorem SameReads.bind {read read' : Step α} {next next' : α → Step β} (h : SameReads read read')
    (hnext : ∀ a, SameReads (next a) (next' a)) : SameReads (read >>= next) (read' >>= next') := by
  intro input b rest
  rw [bind_eq_ok_iff, bind_eq_ok_iff]
  constructor
  · rintro ⟨a, mid, hread, hrest⟩
    exact ⟨a, mid, (h input a mid).mp hread, (hnext a mid b rest).mp hrest⟩
  · rintro ⟨a, mid, hread, hrest⟩
    exact ⟨a, mid, (h input a mid).mpr hread, (hnext a mid b rest).mpr hrest⟩

/-- A value computed from what is read. -/
theorem SameReads.map {read read' : Step α} {f : α → β} (h : SameReads read read') :
    SameReads (do return f (← read)) (do return f (← read')) :=
  h.bind fun a => SameReads.refl (pure (f a))

theorem sameReads_take (size : Nat) (place place' : String) :
    SameReads (take size place) (take size place') := by
  intro input a rest
  unfold take
  split <;> simp

theorem sameReads_ofOption (value : Option α) (error error' : WireError) :
    SameReads (ofOption value error) (ofOption value error') := by
  cases value with
  | none => exact sameReads_fail error error'
  | some a => exact SameReads.refl (done a)

theorem SameReads.within {read read' : Step α} (h : SameReads read read') (part : List UInt8) :
    SameReads (within part read) (within part read') := by
  intro input a rest
  have hpart : ∀ {r : Step α}, (r part).1 = .ok a ↔ ∃ left, r part = (.ok a, left) := by
    intro r
    constructor
    · intro hr
      exact ⟨(r part).2, Prod.ext hr rfl⟩
    · rintro ⟨left, hr⟩
      rw [hr]
  simp only [Step.within, Prod.mk.injEq, hpart, h part a]

theorem sameReads_repeated {read read' : Step α} (h : SameReads read read') (n : Nat) :
    SameReads (repeated read n) (repeated read' n) := by
  induction n with
  | zero => exact SameReads.refl (done [])
  | succ n ih =>
    have hnext : ∀ item, SameReads (repeated read n >>= fun items => done (item :: items))
        (repeated read' n >>= fun items => done (item :: items)) :=
      fun item => ih.bind fun items => SameReads.refl (done (item :: items))
    exact h.bind hnext

/-- Reading until the input is used up succeeds if the first item is read, takes bytes, and the
rest is read so. -/
theorem untilEmpty_eq_ok_iff {read : Step α} {input rest : List UInt8} {items : List α}
    (hne : input ≠ []) : untilEmpty read input = (.ok items, rest) ↔
      ∃ item mid tail, read input = (.ok item, mid) ∧ mid.length < input.length ∧
        untilEmpty read mid = (.ok tail, rest) ∧ items = item :: tail := by
  rw [untilEmpty, if_neg (by simpa using hne)]
  cases hread : read input with
  | mk result mid =>
    cases result with
    | error error => simp
    | ok item =>
      simp only
      split
      · rename_i hlt
        cases htail : untilEmpty read mid with
        | mk result left => cases result <;> grind
      · rename_i hge
        grind

theorem sameReads_untilEmpty {read read' : Step α} (h : SameReads read read') :
    SameReads (untilEmpty read) (untilEmpty read') := by
  intro input
  -- Each item that is read makes the input shorter.
  induction hsize : input.length using Nat.strongRecOn generalizing input with
  | ind size ih =>
    intro items rest
    by_cases hne : input = []
    · rw [hne, untilEmpty_nil, untilEmpty_nil]
    · rw [untilEmpty_eq_ok_iff hne, untilEmpty_eq_ok_iff hne]
      constructor
      · rintro ⟨item, mid, tail, hread, hlt, htail, rfl⟩
        exact ⟨item, mid, tail, (h _ _ _).mp hread, hlt,
          (ih mid.length (hsize ▸ hlt) mid rfl tail rest).mp htail, rfl⟩
      · rintro ⟨item, mid, tail, hread, hlt, htail, rfl⟩
        exact ⟨item, mid, tail, (h _ _ _).mpr hread, hlt,
          (ih mid.length (hsize ▸ hlt) mid rfl tail rest).mpr htail, rfl⟩

theorem sameWrites_each {write write' : α → Step Unit} (happ : ∀ a, AppendsOnly (write a))
    (happ' : ∀ a, AppendsOnly (write' a)) (h : ∀ a, SameWrites (write a) (write' a)) :
    ∀ items : List α, SameWrites (each write items) (each write' items)
  | [] => SameWrites.refl (done ())
  | a :: items => by
    intro bytes
    have htail := sameWrites_each happ happ' h items
    simp only [writes_each_cons_iff happ, writes_each_cons_iff happ', h a _, htail _]

end Step

open Step

theorem sameReads_size (format : Idl.NumberFormat) (error error' : WireError) :
    SameReads (readSize format error) (readSize format error') :=
  (SameReads.refl (readNumber format)).bind fun _ => sameReads_ofOption _ error error'

theorem sameReads_list {α : Type} {read read' : Step α} (count : Length)
    (h : SameReads read read') :
    SameReads (readList count read) (readList count read') := by
  cases count with
  | prefixed format =>
    exact (SameReads.refl (readSize format .lengthTooGreat)).bind fun n => sameReads_repeated h n
  | fixed n => exact sameReads_repeated h n
  | remainder => exact sameReads_untilEmpty h

/-! ## Codecs -/

namespace Codec

/-- The codecs write every value to the same bytes and read every input to the same value and the
same rest, and the same zeros fill the gap of an absent value. -/
structure SameWire (codec codec' : Codec) : Prop where
  /-- The bytes of a value. -/
  writes : ∀ value, SameWrites (codec.write value) (codec'.write value)
  /-- The value that is read. -/
  reads : SameReads codec.read codec'.read
  /-- The number of bytes, where it is always the same. -/
  size : codec.fixedSize? = codec'.fixedSize?

theorem SameWire.refl (codec : Codec) : codec.SameWire codec :=
  ⟨fun value => SameWrites.refl (codec.write value), SameReads.refl codec.read, rfl⟩

theorem SameWire.symm {codec codec' : Codec} (h : codec.SameWire codec') : codec'.SameWire codec :=
  ⟨fun value bytes => (h.writes value bytes).symm, fun input a rest => (h.reads input a rest).symm,
    h.size.symm⟩

theorem SameWire.trans {codec codec' codec'' : Codec} (h : codec.SameWire codec')
    (h' : codec'.SameWire codec'') : codec.SameWire codec'' :=
  ⟨fun value bytes => (h.writes value bytes).trans (h'.writes value bytes),
    fun input a rest => (h.reads input a rest).trans (h'.reads input a rest), h.size.trans h'.size⟩

end Codec

/-- Fields of the same name and the same wire format. -/
def FieldCodec.SameWire (field field' : FieldCodec) : Prop :=
  field.name = field'.name ∧ field.codec.SameWire field'.codec

/-- Payloads of the same form whose parts have the same wire format. -/
inductive Payload.SameWire : Payload → Payload → Prop
  | empty : Payload.SameWire .empty .empty
  | tuple {items items' : List Codec} (h : List.Forall₂ Codec.SameWire items items') :
      Payload.SameWire (.tuple items) (.tuple items')
  | struct {fields fields' : List FieldCodec}
      (h : List.Forall₂ FieldCodec.SameWire fields fields') :
      Payload.SameWire (.struct fields) (.struct fields')

theorem FieldCodec.SameWire.symm {field field' : FieldCodec} (h : field.SameWire field') :
    field'.SameWire field := ⟨h.1.symm, h.2.symm⟩

theorem Payload.SameWire.symm {payload payload' : Payload} (h : payload.SameWire payload') :
    payload'.SameWire payload := by
  cases h with
  | empty => exact .empty
  | tuple h => exact .tuple (h.flip.imp fun _ _ hitem => Codec.SameWire.symm hitem)
  | struct h => exact .struct (h.flip.imp fun _ _ hfield => FieldCodec.SameWire.symm hfield)

/-- Variants whose payloads have the same wire format. -/
def VariantCodec.SameWire (variant variant' : VariantCodec) : Prop :=
  variant.payload.SameWire variant'.payload

/-! ## Parts in a row -/

theorem sameWrites_items {items items' : List Codec}
    (h : List.Forall₂ Codec.SameWire items items') :
    ∀ values, SameWrites (writeItems items values) (writeItems items' values) := by
  induction h with
  | nil => exact fun values => SameWrites.refl (writeItems [] values)
  | cons hhead htail ih =>
    intro values bytes
    cases values with
    | nil => exact Iff.rfl
    | cons value values =>
      simp only [writes_items_cons_iff, hhead.writes value _, ih values _]

theorem sameReads_items {items items' : List Codec} (h : List.Forall₂ Codec.SameWire items items') :
    SameReads (readItems items) (readItems items') := by
  induction h with
  | nil => exact SameReads.refl (readItems [])
  | cons hhead htail ih =>
    rw [readItems_cons, readItems_cons]
    exact hhead.reads.bind fun _ => ih.map

theorem fixedSizeOfItems_eq {items items' : List Codec}
    (h : List.Forall₂ Codec.SameWire items items') :
    fixedSizeOfItems items = fixedSizeOfItems items' := by
  induction h with
  | nil => rfl
  | cons hhead htail ih => simp only [fixedSizeOfItems, hhead.size, ih]

theorem sameWrites_fields {fields fields' : List FieldCodec}
    (h : List.Forall₂ FieldCodec.SameWire fields fields') :
    ∀ values, SameWrites (writeFields fields values) (writeFields fields' values) := by
  induction h with
  | nil => exact fun values => SameWrites.refl (writeFields [] values)
  | @cons field field' fields fields' hhead htail ih =>
    obtain ⟨name, codec⟩ := field
    obtain ⟨name', codec'⟩ := field'
    obtain ⟨hname, hcodec⟩ := hhead
    obtain rfl : name = name' := hname
    intro values bytes
    simp only [writes_fields_cons_iff, hcodec.writes _ _, ih values _]

theorem sameReads_fields {fields fields' : List FieldCodec}
    (h : List.Forall₂ FieldCodec.SameWire fields fields') :
    SameReads (readFields fields) (readFields fields') := by
  induction h with
  | nil => exact SameReads.refl (readFields [])
  | @cons field field' fields fields' hhead htail ih =>
    obtain ⟨name, codec⟩ := field
    obtain ⟨name', codec'⟩ := field'
    obtain ⟨hname, hcodec⟩ := hhead
    obtain rfl : name = name' := hname
    rw [readFields_cons, readFields_cons]
    exact hcodec.reads.bind fun _ => ih.map

theorem fixedSizeOfFields_eq {fields fields' : List FieldCodec}
    (h : List.Forall₂ FieldCodec.SameWire fields fields') :
    fixedSizeOfFields fields = fixedSizeOfFields fields' := by
  induction h with
  | nil => rfl
  | @cons field field' fields fields' hhead htail ih =>
    obtain ⟨name, codec⟩ := field
    obtain ⟨name', codec'⟩ := field'
    simp only [fixedSizeOfFields, hhead.2.size, ih]

/-- The names of fields of the same wire format. -/
theorem names_eq {fields fields' : List FieldCodec}
    (h : List.Forall₂ FieldCodec.SameWire fields fields') :
    fields.map FieldCodec.name = fields'.map FieldCodec.name := by
  induction h with
  | nil => rfl
  | cons hhead htail ih => rw [List.map_cons, List.map_cons, hhead.1, ih]

namespace Payload.SameWire

variable {payload payload' : Payload}

theorem arity (h : payload.SameWire payload') : payload.arity = payload'.arity := by
  cases h with
  | empty => rfl
  | tuple h => exact h.length_eq
  | struct h => exact h.length_eq

theorem writes (h : payload.SameWire payload') (values : List Value) :
    SameWrites (payload.write values) (payload'.write values) := by
  cases h with
  | empty => exact SameWrites.refl (done ())
  | tuple h => exact sameWrites_items h values
  | @struct fields fields' h =>
    have hwrites := sameWrites_fields h ((fields.map FieldCodec.name).zip values)
    intro bytes
    show Writes (writeFields fields _) bytes ↔ Writes (writeFields fields' _) bytes
    rw [← names_eq h]
    exact hwrites bytes

theorem reads (h : payload.SameWire payload') : SameReads payload.read payload'.read := by
  cases h with
  | empty => exact SameReads.refl (done [])
  | tuple h => exact sameReads_items h
  | struct h => exact (sameReads_fields h).map

theorem size (h : payload.SameWire payload') : payload.fixedSize? = payload'.fixedSize? := by
  cases h with
  | empty => rfl
  | tuple h => exact fixedSizeOfItems_eq h
  | struct h => exact fixedSizeOfFields_eq h

end Payload.SameWire

theorem sameReads_variant {name name' : String} {index : Nat}
    {variants variants' : List VariantCodec}
    (h : List.Forall₂ VariantCodec.SameWire variants variants') : ∀ position,
    SameReads (readVariant name index variants position)
      (readVariant name' index variants' position) := by
  induction h with
  | nil => exact fun _ => sameReads_fail (.noVariant name index) (.noVariant name' index)
  | @cons variant variant' variants variants' hhead htail ih =>
    obtain ⟨_, _, payload⟩ := variant
    obtain ⟨_, _, payload'⟩ := variant'
    intro position
    cases position with
    | zero => exact Payload.SameWire.reads hhead
    | succ position => exact ih position

theorem fixedSizesOfVariants_eq {variants variants' : List VariantCodec}
    (h : List.Forall₂ VariantCodec.SameWire variants variants') :
    fixedSizesOfVariants variants = fixedSizesOfVariants variants' := by
  induction h with
  | nil => rfl
  | @cons variant variant' variants variants' hhead htail ih =>
    obtain ⟨_, _, payload⟩ := variant
    obtain ⟨_, _, payload'⟩ := variant'
    have hsize : payload.fixedSize? = payload'.fixedSize? := Payload.SameWire.size hhead
    simp only [fixedSizesOfVariants, hsize, ih]

/-- The variants at an index have the same wire format. -/
theorem exists_variant {variants variants' : List VariantCodec}
    (h : List.Forall₂ VariantCodec.SameWire variants variants') : ∀ {index : Nat} {variant},
    variants[index]? = some variant →
      ∃ variant', variants'[index]? = some variant' ∧ variant.SameWire variant' := by
  induction h with
  | nil =>
    intro index variant hvariant
    cases hvariant
  | @cons head head' variants variants' hhead htail ih =>
    intro index variant hvariant
    -- The index counts down along both lists.
    cases index with
    | zero =>
      obtain rfl := Option.some.inj hvariant
      exact ⟨head', rfl, hhead⟩
    | succ index => exact ih hvariant

/-! ## One congruence for each kind of codec -/

namespace Codec.SameWire

variable {codec codec' : Codec}

theorem option (h : codec.SameWire codec') (flag : Idl.NumberFormat) (isFixed : Bool) :
    (Codec.option codec flag isFixed).SameWire (.option codec' flag isFixed) where
  writes value bytes := by
    -- The gap of an absent value is as wide as the items are.
    have hpadding : codec.padding? isFixed = codec'.padding? isFixed := by
      simp only [padding?, h.size]
    simp only [writes_option_iff, h.writes _ _, hpadding]
  reads := by
    rw [read_option, read_option, h.size]
    refine (SameReads.refl (readNumber flag)).bind fun value => ?_
    split
    · exact SameReads.refl _
    · exact h.reads.map
    · exact SameReads.refl _
  size := by cases isFixed <;> simp only [fixedSize?, h.size]

theorem list (h : codec.SameWire codec') (count : Length) :
    (Codec.list codec count).SameWire (.list codec' count) where
  writes value bytes := by
    have heach := sameWrites_each codec.write_appendsOnly codec'.write_appendsOnly h.writes
    simp only [writes_list_iff, heach _ _]
  reads := by
    rw [read_list, read_list]
    exact (sameReads_list count h.reads).map
  size := by cases count <;> simp only [fixedSize?, h.size]

/-- A set is written and read like a list. -/
theorem set_list (item : Codec) (count : Length) :
    (Codec.set item count).SameWire (.list item count) where
  writes _ _ := writes_set_iff
  reads := SameReads.refl _
  size := by cases count <;> rfl

theorem set (h : codec.SameWire codec') (count : Length) :
    (Codec.set codec count).SameWire (.set codec' count) :=
  (set_list codec count).trans ((h.list count).trans (set_list codec' count).symm)

/-- A typed list is written and read like a list of a fixed number of items. -/
theorem typedArray_list (item : Codec) (count : Nat) :
    (Codec.typedArray item count).SameWire (.list item (.fixed count)) where
  writes _ _ := writes_typedArray_iff
  reads := SameReads.refl _
  size := rfl

theorem map {key key' val val' : Codec} (hkey : key.SameWire key') (hval : val.SameWire val')
    (count : Length) : (Codec.map key val count).SameWire (.map key' val' count) where
  writes value bytes := by
    have hentry : ∀ entry, SameWrites (key.writeEntry val entry) (key'.writeEntry val' entry) := by
      intro entry bytes
      simp only [writes_entry_iff, hkey.writes _ _, hval.writes _ _]
    have heach := sameWrites_each (key.writeEntry_appendsOnly val)
      (key'.writeEntry_appendsOnly val') hentry
    simp only [writes_map_iff, heach _ _]
  reads := by
    rw [read_map, read_map]
    exact (sameReads_list count (hkey.reads.bind fun _ => hval.reads.map)).map
  size := by cases count <;> simp only [fixedSize?, hkey.size, hval.size]

theorem tuple {items items' : List Codec} (h : List.Forall₂ SameWire items items') :
    (Codec.tuple items).SameWire (.tuple items') where
  writes value bytes := by
    simp only [writes_tuple_iff, h.length_eq, sameWrites_items h _ _]
  reads := by
    rw [read_tuple, read_tuple]
    exact (sameReads_items h).map
  size := fixedSizeOfItems_eq h

theorem struct {fields fields' : List FieldCodec} (name name' : String)
    (h : List.Forall₂ FieldCodec.SameWire fields fields') :
    (Codec.struct name fields).SameWire (.struct name' fields') where
  writes value bytes := by
    simp only [writes_struct_iff, sameWrites_fields h _ _]
  reads := by
    rw [read_struct, read_struct]
    exact (sameReads_fields h).map
  size := fixedSizeOfFields_eq h

/-- Every value written by variants is written alike by variants of the same wire format. -/
theorem writes_variant {variants variants' : List VariantCodec} {name name' : String}
    {size : Idl.NumberFormat} {index : Nat} {values : List Value} {bytes : List UInt8}
    (h : List.Forall₂ VariantCodec.SameWire variants variants') {position : Nat}
    (hbytes : Writes (writeVariant name size index values variants position) bytes) :
    Writes (writeVariant name' size index values variants' position) bytes := by
  obtain ⟨variant, hvariant, harity, front, back, hfront, hback, rfl⟩ :=
    writes_variant_iff.mp hbytes
  obtain ⟨variant', hvariant', hpayload⟩ := exists_variant h hvariant
  have harity' := harity.trans (Payload.SameWire.arity hpayload)
  have hback' := (Payload.SameWire.writes hpayload values back).mp hback
  exact writes_variant_iff.mpr ⟨variant', hvariant', harity', front, back, hfront, hback', rfl⟩

theorem enum {variants variants' : List VariantCodec} (name name' : String)
    (size : Idl.NumberFormat) (h : List.Forall₂ VariantCodec.SameWire variants variants') :
    (Codec.enum name size variants).SameWire (.enum name' size variants') where
  writes value bytes := by
    -- Variants of the same wire format can be exchanged in both directions.
    have hback : List.Forall₂ VariantCodec.SameWire variants' variants := by
      refine h.flip.imp fun variant variant' hvariant => ?_
      exact Payload.SameWire.symm hvariant
    constructor
    · intro hbytes
      obtain ⟨index, values, rfl, hvariant⟩ := writes_enum_iff.mp hbytes
      exact writes_enum_iff.mpr ⟨index, values, rfl, writes_variant h hvariant⟩
    · intro hbytes
      obtain ⟨index, values, rfl, hvariant⟩ := writes_enum_iff.mp hbytes
      exact writes_enum_iff.mpr ⟨index, values, rfl, writes_variant hback hvariant⟩
  reads := by
    rw [read_enum, read_enum]
    refine (sameReads_size size _ _).bind fun index => ?_
    exact (sameReads_variant h index).map
  size := by simp only [fixedSize?, fixedSizesOfVariants_eq h]

theorem sizePrefixed (h : codec.SameWire codec') (width : Idl.NumberFormat) :
    (Codec.sizePrefixed codec width).SameWire (.sizePrefixed codec' width) where
  writes value bytes := by
    simp only [writes_sizePrefixed_iff, h.writes _ _]
  reads := by
    rw [read_sizePrefixed, read_sizePrefixed]
    refine (SameReads.refl (readSize width .invalidSize)).bind fun size => ?_
    exact (SameReads.refl (take size "size prefixed")).bind fun part => h.reads.within part
  size := rfl

theorem fixedSize (h : codec.SameWire codec') (size : Nat) :
    (Codec.fixedSize codec size).SameWire (.fixedSize codec' size) where
  writes value bytes := by
    simp only [writes_fixedSize_iff, h.writes _ _]
  reads := by
    rw [read_fixedSize, read_fixedSize]
    exact (SameReads.refl (take size "fixed size")).bind fun part => h.reads.within part
  size := rfl

/-- A text that takes all of a part is the text of the part. -/
theorem sameReads_withinText (part : List UInt8) :
    SameReads (within part (Codec.string .remainder).read) (match Text.Utf8.decode part with
      | .ok text => pure (.string text)
      | .error fault => fail (.invalidText fault)) := by
  intro input value rest
  have hpart : (Codec.string .remainder).read part = (match Text.Utf8.decode part with
      | .ok text => pure (.string text)
      | .error fault => fail (.invalidText fault) : Step Value) [] := rfl
  rw [Step.within, hpart]
  cases Text.Utf8.decode part <;> simp

/-- A size around bytes is the length of the bytes. -/
theorem fixedBytes (size : Nat) :
    (Codec.fixedSize (.bytes .remainder) size).SameWire (.bytes (.fixed size)) where
  writes value bytes := by
    simp only [writes_fixedSize_iff, writes_bytes_iff, writes_remainderBytes_iff,
      writes_fixedBytes_iff]
    grind
  reads := by
    rw [read_fixedSize, read_bytes]
    refine (sameReads_take size "fixed size" "bytes").bind fun part => ?_
    exact SameReads.refl (pure (Value.bytes part))
  size := rfl

/-- A size in front of bytes is the length of the bytes. -/
theorem prefixedBytes (width : Idl.NumberFormat) :
    (Codec.sizePrefixed (.bytes .remainder) width).SameWire (.bytes (.prefixed width)) where
  writes value bytes := by
    simp only [writes_sizePrefixed_iff, writes_bytes_iff, writes_remainderBytes_iff,
      writes_prefixedBytes_iff]
    grind
  reads := by
    -- The size is read in one step and the bytes in the next, as a size wrapper does it.
    have hread : (Codec.bytes (.prefixed width)).read =
        readSize width .lengthTooGreat >>= fun size => do return .bytes (← take size "bytes") :=
      step_bind_assoc _ _ _
    rw [read_sizePrefixed, hread]
    refine (sameReads_size width _ _).bind fun size => ?_
    refine (sameReads_take size _ _).bind fun part => ?_
    exact SameReads.refl (pure (Value.bytes part))
  size := rfl

/-- A size around a text is the length of the text. -/
theorem fixedText (size : Nat) :
    (Codec.fixedSize (.string .remainder) size).SameWire (.string (.fixed size)) where
  writes value bytes := by
    simp only [writes_fixedSize_iff, writes_string_iff, writes_remainderBytes_iff,
      writes_fixedBytes_iff]
    grind
  reads := by
    rw [read_fixedSize, read_string (.fixed size)]
    refine (sameReads_take size "fixed size" "string").bind fun part => ?_
    exact sameReads_withinText part
  size := rfl

/-- A size in front of a text is the length of the text. -/
theorem prefixedText (width : Idl.NumberFormat) :
    (Codec.sizePrefixed (.string .remainder) width).SameWire (.string (.prefixed width)) where
  writes value bytes := by
    simp only [writes_sizePrefixed_iff, writes_string_iff, writes_remainderBytes_iff,
      writes_prefixedBytes_iff]
    grind
  reads := by
    have hread : readBytes (.prefixed width) "string" =
        readSize width .lengthTooGreat >>= fun size => take size "string" := rfl
    rw [read_sizePrefixed, read_string (.prefixed width), hread, step_bind_assoc]
    refine (sameReads_size width _ _).bind fun size => ?_
    refine (sameReads_take size _ _).bind fun part => ?_
    exact sameReads_withinText part
  size := rfl

end Codec.SameWire

/-! ## Floating point numbers as sizes -/

theorem not_writes_floatSize {format : Idl.NumberFormat} (h : format.isFloat = true) {n : Nat}
    {bytes : List UInt8} : ¬ Writes (writeNumber format (.unsigned n)) bytes := by
  cases format
  case f32 | f64 =>
    intro hbytes
    rw [writeNumber, writes_float_iff] at hbytes
    obtain ⟨x, hx, -⟩ := hbytes
    cases hx
  all_goals cases h

/-- In all other formats at least zero is written. -/
theorem exists_writes_zero {format : Idl.NumberFormat} (h : format.isFloat = false) :
    ∃ bytes, Writes (writeNumber format (.unsigned 0)) bytes := by
  cases format
  case u8 | u16 | u32 | u64 | u128 =>
    apply Exists.intro
    rw [writeNumber, writes_unsigned_iff]
    exact ⟨0, rfl, Nat.pow_pos (by decide), rfl⟩
  case i8 | i16 | i32 | i64 | i128 =>
    apply Exists.intro
    rw [writeNumber, writes_signed_iff]
    exact ⟨0, rfl, by decide, by decide, rfl⟩
  case f32 | f64 => cases h
  case shortU16 =>
    apply Exists.intro
    rw [writeNumber, writes_short_iff]
    exact ⟨0, rfl, by decide, rfl⟩

theorem exists_float_of_readFloat {format : Idl.NumberFormat} {width : Nat} {isNaN : Nat → Bool}
    {ofBits : Nat → Number.Double} {input rest : List UInt8} {value : Value}
    (h : readFloat format width isNaN ofBits input = (.ok value, rest)) :
    ∃ x, value = .float x := by
  obtain ⟨bits, mid, -, hvalue⟩ := bind_eq_ok_iff.mp h
  split at hvalue
  · cases hvalue
  · obtain ⟨hok, -⟩ := Prod.mk.inj hvalue
    exact ⟨_, (Except.ok.inj hok).symm⟩

theorem not_reads_floatSize {format : Idl.NumberFormat} (h : format.isFloat = true)
    {error : WireError} {input rest : List UInt8} {n : Nat} :
    readSize format error input ≠ (.ok n, rest) := by
  intro hread
  obtain ⟨value, mid, hvalue, hsize⟩ := bind_eq_ok_iff.mp hread
  -- What is read is a floating point number, which is no size.
  obtain ⟨x, rfl⟩ : ∃ x, value = .float x := by
    cases format
    case f32 | f64 => exact exists_float_of_readFloat hvalue
    all_goals cases h
  cases hsize

/-- Nothing is written or read behind a size that is a floating point number. -/
theorem Codec.SameWire.floatPrefix (inner : Codec) {width : Idl.NumberFormat}
    (h : width.isFloat = true) :
    (Codec.sizePrefixed inner width).SameWire (.string (.prefixed width)) where
  writes value bytes := by
    simp only [writes_sizePrefixed_iff, writes_string_iff, writes_prefixedBytes_iff]
    -- Both writers stop at the size.
    constructor
    · rintro ⟨front, part, -, hfront, -⟩
      exact absurd hfront (not_writes_floatSize h)
    · rintro ⟨text, -, front, hfront, -⟩
      exact absurd hfront (not_writes_floatSize h)
  reads input value rest := by
    constructor
    · intro hread
      rw [read_sizePrefixed] at hread
      obtain ⟨size, mid, hsize, -⟩ := bind_eq_ok_iff.mp hread
      exact absurd hsize (not_reads_floatSize h)
    · intro hread
      rw [read_string] at hread
      obtain ⟨part, mid, hpart, -⟩ := bind_eq_ok_iff.mp hread
      obtain ⟨size, left, hsize, -⟩ := bind_eq_ok_iff.mp hpart
      exact absurd hsize (not_reads_floatSize h)
  size := rfl

end DartClient
