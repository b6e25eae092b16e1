import DartClient.Wire.Decode

/-!
# Reading what stands in front

A reader takes a byte string if it reads a value from it, whatever follows, and leaves exactly what
follows. What two readers take one after the other is what each of them takes, in order.

## Main definitions

* `Step.Reads read bytes a`: the reader takes these bytes and gives this value.

## Main results

* `Reads.bind`, `reads_take`, `reads_within`, `reads_repeated_cons`: what composed readers take.
* `untilEmpty_append`: reading until the input is used up, where every item takes a byte.
* `Payload.read_eq`: a payload is read part by part.
-/

namespace DartClient

namespace Step

variable {α β : Type}

/-- The reader takes exactly these bytes from the front of any input and gives this value. -/
def Reads (read : Step α) (bytes : List UInt8) (a : α) : Prop :=
  ∀ rest, read (bytes ++ rest) = (.ok a, rest)

theorem Reads.apply {read : Step α} {bytes : List UInt8} {a : α} (h : Reads read bytes a)
    (rest : List UInt8) : read (bytes ++ rest) = (.ok a, rest) := h rest

/-- A reader that takes all of its input. -/
theorem Reads.apply_all {read : Step α} {bytes : List UInt8} {a : α} (h : Reads read bytes a) :
    read bytes = (.ok a, []) := by
  simpa using h []

theorem reads_pure (a : α) : Reads (pure a : Step α) [] a := fun _ => rfl

theorem reads_done (a : α) : Reads (done a) [] a := fun _ => rfl

theorem Reads.bind {read : Step α} {next : α → Step β} {front back : List UInt8} {a : α} {b : β}
    (h : Reads read front a) (hnext : Reads (next a) back b) :
    Reads (read >>= next) (front ++ back) b := by
  intro rest
  rw [bind_apply, List.append_assoc, h (back ++ rest)]
  exact hnext rest

/-- A value computed from what is read takes no further bytes. -/
theorem Reads.map {read : Step α} {f : α → β} {bytes : List UInt8} {a : α}
    (h : Reads read bytes a) : Reads (do return f (← read)) bytes (f a) := by
  have h' : Reads (read >>= fun a => pure (f a)) (bytes ++ []) (f a) := h.bind (reads_pure (f a))
  rwa [List.append_nil] at h'

theorem reads_take (bytes : List UInt8) (place : String) :
    Reads (take bytes.length place) bytes bytes := by
  intro rest
  simp [take]

theorem reads_takeAddress (address : Address) : Reads takeAddress address.bytes address := by
  intro rest
  have hlen := address.length_bytes
  have htake : (address.bytes ++ rest).take 32 = address.bytes := by
    rw [← hlen, List.take_left]
  have hdrop : (address.bytes ++ rest).drop 32 = rest := by
    rw [← hlen, List.drop_left]
  simp only [takeAddress, List.length_append, hlen, Nat.le_add_right, dite_true, hdrop]
  simp only [htake]

theorem reads_within {read : Step α} {part : List UInt8} {a : α}
    (h : (read part).1 = .ok a) : Reads (within part read) [] a := by
  intro rest
  simp [within, h]

/-- Reading a value from a part of known length. -/
theorem reads_taken {read : Step α} {part : List UInt8} {a : α} (place : String)
    (h : (read part).1 = .ok a) :
    Reads (do within (← take part.length place) read) part a := by
  have h' : Reads (take part.length place >>= fun part => within part read) (part ++ []) a :=
    (reads_take part place).bind (reads_within h)
  rwa [List.append_nil] at h'

theorem reads_repeated_nil (read : Step α) : Reads (repeated read 0) [] [] := reads_done []

theorem reads_repeated_cons {read : Step α} {front back : List UInt8} {a : α} {items : List α}
    (h : Reads read front a) (hitems : Reads (repeated read items.length) back items) :
    Reads (repeated read (a :: items).length) (front ++ back) (a :: items) := by
  have hdone : Reads (repeated read items.length >>= fun items => done (a :: items))
      (back ++ []) (a :: items) := hitems.bind (reads_done (a :: items))
  rw [List.append_nil] at hdone
  have hcons : Reads (read >>= fun item => repeated read items.length >>= fun items =>
      done (item :: items)) (front ++ back) (a :: items) := h.bind hdone
  exact hcons

/-! ## Until the input is used up -/

theorem untilEmpty_nil (read : Step α) : untilEmpty read [] = (.ok [], []) := by
  rw [untilEmpty]
  rfl

theorem untilEmpty_append {read : Step α} {front back : List UInt8} {a : α} {items : List α}
    (h : Reads read front a) (hfront : front ≠ [])
    (hitems : untilEmpty read back = (.ok items, [])) :
    untilEmpty read (front ++ back) = (.ok (a :: items), []) := by
  rw [untilEmpty]
  have hne : (front ++ back).isEmpty = false := by simp [hfront]
  have hlt : back.length < (front ++ back).length := by
    have := List.length_pos_iff.mpr hfront
    simp only [List.length_append]
    omega
  simp only [hne, Bool.false_eq_true, if_false, h back, if_pos hlt, hitems]

end Step

/-! ## One equation for each kind of codec -/

open Step

theorem Codec.read_boolean (format : Idl.NumberFormat) : (Codec.boolean format).read = (do
    match (← readNumber format).unsigned? with
    | some 0 => return .bool false
    | some 1 => return .bool true
    | other => .fail (.invalidFlag other)) := rfl

theorem Codec.read_string (length : Length) : (Codec.string length).read = (do
    match Text.Utf8.decode (← readBytes length "string") with
    | .ok text => return .string text
    | .error fault => .fail (.invalidText fault)) := rfl

theorem Codec.read_bytes (length : Length) :
    (Codec.bytes length).read = (do return .bytes (← readBytes length "bytes")) := rfl

theorem Codec.read_publicKey : Codec.publicKey.read = (do return .publicKey (← takeAddress)) := rfl

theorem Codec.read_option (item : Codec) (flag : Idl.NumberFormat) (isFixed : Bool) :
    (Codec.option item flag isFixed).read = (do
      match (← readNumber flag).unsigned? with
      | some 0 =>
        if isFixed then
          let size ← ofOption item.fixedSize? .noFixedSize
          let _ ← take size "fixed option"
          return .option none
        else return .option none
      | some 1 => return .option (some (← item.read))
      | other => .fail (.invalidPresence other)) := rfl

theorem Codec.read_list (item : Codec) (count : Length) :
    (Codec.list item count).read = (do return .list (← readList count item.read)) := rfl

theorem Codec.read_map (key value : Codec) (count : Length) : (Codec.map key value count).read =
    (do return .map (← readList count do return (← key.read, ← value.read))) := rfl

theorem Codec.read_tuple (items : List Codec) :
    (Codec.tuple items).read = (do return .tuple (← readItems items)) := rfl

theorem Codec.read_struct (name : String) (fields : List FieldCodec) :
    (Codec.struct name fields).read = (do return .struct (← readFields fields)) := rfl

theorem Codec.read_enum (name : String) (size : Idl.NumberFormat) (variants : List VariantCodec) :
    (Codec.enum name size variants).read = (do
      let index ← readSize size (.invalidVariant name)
      return .enum index (← readVariant name index variants index)) := rfl

theorem Codec.read_sizePrefixed (inner : Codec) (width : Idl.NumberFormat) :
    (Codec.sizePrefixed inner width).read = (do
      let size ← readSize width .invalidSize
      within (← take size "size prefixed") inner.read) := rfl

theorem Codec.read_fixedSize (inner : Codec) (size : Nat) : (Codec.fixedSize inner size).read =
    (do within (← take size "fixed size") inner.read) := rfl

theorem readItems_cons (item : Codec) (items : List Codec) :
    readItems (item :: items) = (do return (← item.read) :: (← readItems items)) := rfl

theorem readFields_cons (name : String) (codec : Codec) (fields : List FieldCodec) :
    readFields (⟨name, codec⟩ :: fields) =
      (do return (name, ← codec.read) :: (← readFields fields)) := rfl

/-! ## Payloads -/

/-- The values of fields are read like items. -/
theorem readFields_snd : ∀ fields : List FieldCodec,
    (do return (← readFields fields).map Prod.snd : Step (List Value)) =
      readItems (fields.map FieldCodec.codec)
  | [] => rfl
  | ⟨name, codec⟩ :: fields => by
    funext input
    rw [List.map_cons, readItems_cons, ← readFields_snd fields, readFields_cons]
    simp only [bind_apply, pure_apply]
    cases codec.read input with
    | mk result rest =>
      cases result with
      | error error => rfl
      | ok value =>
        simp only
        cases readFields fields rest with
        | mk result rest => cases result <;> rfl

/-- **A payload is read part by part**, whether its parts have names or not. -/
theorem Payload.read_eq (payload : Payload) : payload.read = readItems payload.codecs := by
  cases payload with
  | empty => rfl
  | tuple items => rfl
  | struct fields => exact readFields_snd fields

/-- The payload read is that of the variant at the index. -/
theorem readVariant_eq {name : String} {index : Nat} {variant : VariantCodec} :
    ∀ {variants : List VariantCodec} {position : Nat}, variants[position]? = some variant →
      readVariant name index variants position = readItems variant.payload.codecs
  | ⟨_, _, payload⟩ :: _, 0, h => by
    obtain rfl := Option.some.inj h
    exact payload.read_eq
  | ⟨_, _, _⟩ :: variants, position + 1, h => by
    have hrest : readVariant name index variants position = _ := readVariant_eq h
    exact hrest

end DartClient
