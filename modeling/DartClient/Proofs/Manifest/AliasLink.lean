import DartClient.Proofs.Manifest.Unfolding
import DartClient.Proofs.Text.Utf8

/-!
# Links to aliases

A link to an alias and the type that the alias stands for encode every value to the same bytes and
decode every input to the same value, wherever the link stands, with one exception. A size around a
text is the length of the text, and so is a size in front of it. Around a link to a text the size
is one of its own, and the text keeps its length of four bytes. So a size around a link to a text
and a size around the text never have the same wire format.

## Main definitions

* `TypeGap.IsSize`: the gaps directly below an outermost size.

## Main results

* `Resolver.unfold_alias`: where a link and what it stands for agree, and where they do not.
-/

namespace DartClient

open Idl (TypeNode NumberFormat NumberType BytesEncoding DefinedType Program)
open Codec
open Step (Writes)

/-- The type is a size around the gap or a size in front of it. -/
inductive TypeGap.IsSize : TypeGap → Prop
  | fixedSize (size : Nat) : IsSize (.fixedSize .here size)
  | sizePrefix (width : NumberType) : IsSize (.sizePrefix .here width)

/-! ## Texts below a size -/

namespace Codec

theorem writes_fixedText {size : Nat} {text : String}
    (h : (Text.Utf8.encode text).length = size) :
    Writes ((Codec.string (.fixed size)).write (.string text)) (Text.Utf8.encode text) :=
  writes_string_iff.mpr ⟨text, rfl, writes_fixedBytes_iff.mpr ⟨h, rfl⟩⟩

/-- A text that keeps its length has four bytes more than the text. -/
theorem length_of_writes_borshText {text : String} {bytes : List UInt8}
    (h : Writes ((Codec.string .borsh).write (.string text)) bytes) :
    bytes.length = 4 + (Text.Utf8.encode text).length := by
  obtain ⟨_, heq, hborsh⟩ := writes_string_iff.mp h
  obtain rfl := Value.string.inj heq
  obtain ⟨front, hfront, rfl⟩ := writes_prefixedBytes_iff.mp hborsh
  rw [writeNumber, writes_unsigned_iff] at hfront
  obtain ⟨n, -, -, rfl⟩ := hfront
  rw [List.length_append, length_littleEndian]

theorem not_writes_fixedSize_text {size : Nat} {text : String} {bytes : List UInt8}
    (h : (Text.Utf8.encode text).length = size) :
    ¬ Writes ((Codec.fixedSize (.string .borsh) size).write (.string text)) bytes := by
  intro hbytes
  obtain ⟨htext, hsize⟩ := writes_fixedSize_iff.mp hbytes
  have hlength := length_of_writes_borshText htext
  omega

/-- The numbers 0 and 4 have equally many bytes in every format. -/
theorem length_of_writes_small {width : NumberFormat} {front front' : List UInt8}
    (h : Writes (writeNumber width (.unsigned 0)) front)
    (h' : Writes (writeNumber width (.unsigned 4)) front') : front.length = front'.length := by
  cases width
  case u8 | u16 | u32 | u64 | u128 =>
    rw [writeNumber, writes_unsigned_iff] at h h'
    obtain ⟨_, -, -, rfl⟩ := h
    obtain ⟨_, -, -, rfl⟩ := h'
    simp only [length_littleEndian]
  case i8 | i16 | i32 | i64 | i128 =>
    rw [writeNumber, writes_signed_iff] at h h'
    obtain ⟨_, -, -, -, rfl⟩ := h
    obtain ⟨_, -, -, -, rfl⟩ := h'
    simp only [length_littleEndian]
  case f32 | f64 => exact absurd h (not_writes_floatSize rfl)
  case shortU16 =>
    rw [writeNumber, writes_short_iff] at h h'
    obtain ⟨_, hn, -, rfl⟩ := h
    obtain ⟨_, hn', -, rfl⟩ := h'
    obtain rfl := Option.some.inj hn
    obtain rfl := Option.some.inj hn'
    simp [shortBytes]

/-- The length of the empty text stands in front of nothing, but a size in front of the empty text
stands in front of the length of the text. -/
theorem exists_writes_prefixedText {width : NumberFormat} (h : width.isFloat = false) :
    ∃ bytes, Writes ((Codec.string (.prefixed width)).write (.string "")) bytes ∧
      ¬ Writes ((Codec.sizePrefixed (.string .borsh) width).write (.string "")) bytes := by
  obtain ⟨front, hfront⟩ := exists_writes_zero h
  have hprefixed : Writes (writeBytes (.prefixed width) (Text.Utf8.encode "") "string") front :=
    writes_prefixedBytes_iff.mpr ⟨front, hfront, (List.append_nil front).symm⟩
  -- The empty text is the shortest witness; its own length alone takes four bytes.
  refine ⟨front, writes_string_iff.mpr ⟨"", rfl, hprefixed⟩, fun hbytes => ?_⟩
  obtain ⟨front', part, hpart, hfront', heq⟩ := writes_sizePrefixed_iff.mp hbytes
  have hpart4 : part.length = 4 := length_of_writes_borshText hpart
  rw [hpart4] at hfront'
  have hlength := congrArg List.length heq
  rw [List.length_append, length_of_writes_small hfront hfront', hpart4] at hlength
  omega

end Codec

namespace Resolver

variable {resolver : Resolver} {gap : TypeGap} {name : String} {program : Option String}
  {defined : DefinedType}

/-- A link to an alias of a text has one layout. -/
theorem eq_borsh_of_lays_link {codec : Codec} {encoding : BytesEncoding}
    (hdefined : resolver.dictionary.definedType? resolver.program name program = some defined)
    (htext : defined.type = .string encoding) (h : resolver.Lays (.link name program) codec) :
    codec = .string .borsh := by
  cases h with
  | reference _ hdefined' hshape =>
    obtain rfl := Option.some.inj (hdefined.symm.trans hdefined')
    rw [htext] at hshape
    exact absurd rfl hshape
  | synonym hdefined' _ hlays =>
    obtain rfl := Option.some.inj (hdefined.symm.trans hdefined')
    rw [htext] at hlays
    cases hlays
    rfl

/-- A size around a text is the length of the text. -/
theorem eq_of_lays_fixedText {codec : Codec} {encoding : BytesEncoding} {size : Nat}
    (h : resolver.Lays (.fixedSize (.string encoding) size) codec) :
    codec = .string (.fixed size) := by
  cases h with
  | fixedText => rfl
  | fixedSize _ htext _ _ => exact absurd rfl (htext encoding)

theorem eq_of_lays_prefixedText {codec : Codec} {encoding : BytesEncoding} {width : NumberType}
    (h : resolver.Lays (.sizePrefix (.string encoding) width) codec) :
    codec = .string (.prefixed width.format) := by
  cases h with
  | prefixedText => rfl
  | sizePrefix _ htext _ _ => exact absurd rfl (htext encoding)

/-- A size around the text takes a text that a size around a link to it refuses or writes
otherwise. -/
theorem exists_writes_of_isSize {codec codec' : Codec} {encoding : BytesEncoding}
    (hdefined : resolver.dictionary.definedType? resolver.program name program = some defined)
    (htext : defined.type = .string encoding) (hgap : gap.IsSize) (hsized : gap.isSized = true)
    (h : resolver.Lays (gap.fill (.link name program)) codec)
    (h' : resolver.Lays (gap.fill defined.type) codec') :
    ∃ value bytes, Writes (codec'.write value) bytes ∧ ¬ Writes (codec.write value) bytes := by
  rw [htext] at h'
  -- Both layouts are known here: one keeps the length of the text, the other does not.
  cases hgap with
  | fixedSize size =>
    obtain rfl := eq_of_lays_fixedText h'
    have hlength := Text.Utf8.length_encode_replicate size
    cases h with
    | fixedSize _ _ _ hinner =>
      obtain rfl := eq_borsh_of_lays_link hdefined htext hinner
      exact ⟨_, _, writes_fixedText hlength, not_writes_fixedSize_text hlength⟩
  | sizePrefix width =>
    obtain rfl := eq_of_lays_prefixedText h'
    cases h with
    | sizePrefix format _ _ hinner =>
      obtain rfl := eq_borsh_of_lays_link hdefined htext hinner
      have hfloat : format.isFloat = false := by simpa [TypeGap.isSized] using hsized
      exact ⟨_, exists_writes_prefixedText hfloat⟩

/-- **A link to an alias can be replaced by the type that it stands for** without a change of the
wire format, unless the alias is a text and the link stands directly below a size. A size around
such a link never has the wire format of a size around the text. -/
theorem unfold_alias {ctx ctx' : ResolveContext} {linked unfolded : Manifest}
    (hdefined : resolver.dictionary.definedType? resolver.program name program = some defined)
    (hshape : DefinedShape.ofType defined.type = .synonym)
    (hlinked : resolver.resolve (gap.fill (.link name program)) ctx = .ok linked)
    (hunfolded : resolver.resolve (gap.fill defined.type) ctx' = .ok unfolded) :
    (¬ (gap.isSized = true ∧ ∃ encoding, defined.type = .string encoding) →
      (∀ value bytes, linked.codec.encode value = .ok bytes ↔
        unfolded.codec.encode value = .ok bytes) ∧
      ∀ input value rest, linked.codec.read input = (.ok value, rest) ↔
        unfolded.codec.read input = (.ok value, rest)) ∧
    (gap.IsSize ∧ gap.isSized = true ∧ (∃ encoding, defined.type = .string encoding) →
      ∃ value bytes, unfolded.codec.encode value = .ok bytes ∧
        linked.codec.encode value ≠ .ok bytes) := by
  have hlays := lays_of_resolve hlinked
  have hlays' := lays_of_resolve hunfolded
  constructor
  · intro hplain
    have hsame : linked.codec.SameWire unfolded.codec := by
      refine hasWire_fill hdefined hshape (fun hsized encoding heq => ?_) hlays hlays'
      exact hplain ⟨hsized, encoding, heq⟩
    refine ⟨fun value bytes => ?_, hsame.reads⟩
    rw [Codec.encode_eq_ok_iff, Codec.encode_eq_ok_iff]
    exact hsame.writes value bytes
  · rintro ⟨hgap, hsized, encoding, htext⟩
    obtain ⟨value, bytes, hwrites, hnot⟩ :=
      exists_writes_of_isSize hdefined htext hgap hsized hlays hlays'
    refine ⟨value, bytes, Codec.encode_eq_ok_iff.mpr hwrites, fun hencode => ?_⟩
    exact hnot (Codec.encode_eq_ok_iff.mp hencode)

/-- Links inside a program with one alias, which is a text. -/
def labels : Resolver where
  dictionary := .ofPrograms [.ofTypes "shop" [⟨"label", .string .utf8, []⟩]]
  program := "shop"

/-- A label that may be absent is a text that may be absent, but a label in eight bytes is no text
in eight bytes. -/
theorem unfold_alias_label : ∃ linked unfolded linkedSized unfoldedSized,
    labels.resolve (.option (.link "label" none) ⟨.u8, .little⟩ false) (.root "Tag" .type) =
      .ok linked ∧
    labels.resolve (.option (.string .utf8) ⟨.u8, .little⟩ false) (.root "Tag" .type) =
      .ok unfolded ∧
    (∀ value bytes, linked.codec.encode value = .ok bytes ↔
      unfolded.codec.encode value = .ok bytes) ∧
    labels.resolve (.fixedSize (.link "label" none) 8) (.root "Tag" .type) = .ok linkedSized ∧
    labels.resolve (.fixedSize (.string .utf8) 8) (.root "Tag" .type) = .ok unfoldedSized ∧
    ∃ value bytes, unfoldedSized.codec.encode value = .ok bytes ∧
      linkedSized.codec.encode value ≠ .ok bytes := by
  have hdefined : labels.dictionary.definedType? labels.program "label" none =
    some ⟨"label", .string .utf8, []⟩ := rfl
  let ctx : ResolveContext := .root "Tag" .type
  refine ⟨_, _, _, _, rfl, rfl, ?_, rfl, rfl, ?_⟩
  · have hplain := (@unfold_alias labels (.option .here ⟨.u8, .little⟩ false) _ _ _ ctx ctx _ _
      hdefined rfl rfl rfl).1
    exact (hplain fun hsized => Bool.noConfusion hsized.1).1
  · have hsized := (@unfold_alias labels (.fixedSize .here 8) _ _ _ ctx ctx _ _
      hdefined rfl rfl rfl).2
    exact hsized ⟨.fixedSize 8, rfl, .utf8, rfl⟩

/-- A text of eight bytes is no label in eight bytes. -/
theorem fixedSize_label_ne_fixedSize_text : ∃ linked unfolded,
    labels.resolve (.fixedSize (.link "label" none) 8) (.root "Tag" .type) = .ok linked ∧
    labels.resolve (.fixedSize (.string .utf8) 8) (.root "Tag" .type) = .ok unfolded ∧
    unfolded.codec.encode (.string "abcdefgh") = .ok [97, 98, 99, 100, 101, 102, 103, 104] ∧
    linked.codec.encode (.string "abcdefgh") = .error (.wrongFixedSize 8 12) :=
  ⟨_, _, rfl, rfl, rfl, rfl⟩

end Resolver

end DartClient
