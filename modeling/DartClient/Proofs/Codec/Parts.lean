import DartClient.Codec.Basic

/-!
# The parts of a codec

A codec is a tree whose branches hang from lists of items, fields and variants. Its parts are the
codecs directly below it; they are smaller than the codec, so what passes from the parts to the
whole holds of every codec.

## Main definitions

* `Codec.parts`: the codecs directly below.
* `Codec.length?`: how the length of the codec itself is stored.
* `Codec.Throughout`: a property of the codec and of everything below.

## Main results

* `Codec.induction_parts`: induction along the parts.
-/

namespace DartClient

namespace Codec

/-- The codecs directly below. -/
def parts : Codec → List Codec
  | .option item _ _ | .list item _ | .typedArray item _ | .set item _ => [item]
  | .sizePrefixed inner _ | .fixedSize inner _ => [inner]
  | .map key value _ => [key, value]
  | .tuple items => items
  | .struct _ fields => fields.map FieldCodec.codec
  | .enum _ _ variants => variants.flatMap fun variant => variant.payload.codecs
  | _ => []

/-- How the length of the codec itself is stored, where it has one. -/
def length? : Codec → Option Length
  | .string length | .bytes length => some length
  | .list _ count | .set _ count | .map _ _ count => some count
  | .typedArray _ count => some (.fixed count)
  | _ => none

/-- A property of the codec and of all codecs below it. -/
inductive Throughout (P : Codec → Prop) : Codec → Prop
  | intro {codec : Codec} (own : P codec) (parts : ∀ part ∈ codec.parts, Throughout P part) :
      Throughout P codec

namespace Throughout

variable {P Q : Codec → Prop} {codec part : Codec}

theorem own (h : codec.Throughout P) : P codec := by
  cases h
  assumption

theorem of_part (h : codec.Throughout P) (hpart : part ∈ codec.parts) : part.Throughout P := by
  cases h with
  | intro _ parts => exact parts part hpart

theorem imp (himp : ∀ codec, P codec → Q codec) (h : codec.Throughout P) :
    codec.Throughout Q := by
  induction h with
  | intro own _ ih => exact .intro (himp _ own) ih

end Throughout

end Codec

theorem FieldCodec.sizeOf_codec_lt (field : FieldCodec) : sizeOf field.codec < sizeOf field := by
  cases field
  simp only [FieldCodec.mk.sizeOf_spec]
  omega

theorem VariantCodec.sizeOf_payload_lt (variant : VariantCodec) :
    sizeOf variant.payload < sizeOf variant := by
  cases variant
  simp only [VariantCodec.mk.sizeOf_spec]
  omega

theorem Payload.sizeOf_lt_of_mem_codecs {payload : Payload} {codec : Codec}
    (h : codec ∈ payload.codecs) : sizeOf codec < sizeOf payload := by
  cases payload with
  | empty => cases h
  | tuple items =>
    have : sizeOf codec < sizeOf items := List.sizeOf_lt_of_mem h
    simp only [Payload.tuple.sizeOf_spec]
    omega
  | struct fields =>
    obtain ⟨field, hfield, rfl⟩ := List.mem_map.mp h
    have h₁ := field.sizeOf_codec_lt
    have h₂ := List.sizeOf_lt_of_mem hfield
    simp only [Payload.struct.sizeOf_spec]
    omega

namespace Codec

/-- A part is smaller than the codec. -/
theorem sizeOf_lt_of_mem_parts {codec part : Codec} (h : part ∈ codec.parts) :
    sizeOf part < sizeOf codec := by
  cases codec
  case number | boolean | string | bytes | publicKey | defined | unknown => cases h
  case option | list | typedArray | set | sizePrefixed | fixedSize =>
    obtain rfl := List.mem_singleton.mp h
    simp +arith
  case map key value count =>
    simp only [parts, List.mem_cons, List.not_mem_nil, or_false] at h
    rcases h with rfl | rfl <;> simp +arith
  case tuple items =>
    have : sizeOf part < sizeOf items := List.sizeOf_lt_of_mem h
    simp only [Codec.tuple.sizeOf_spec]
    omega
  case struct name fields =>
    obtain ⟨field, hfield, rfl⟩ := List.mem_map.mp h
    have h₁ := field.sizeOf_codec_lt
    have h₂ := List.sizeOf_lt_of_mem hfield
    simp only [Codec.struct.sizeOf_spec]
    omega
  case enum name size variants =>
    obtain ⟨variant, hvariant, hpart⟩ := List.mem_flatMap.mp h
    have h₁ := Payload.sizeOf_lt_of_mem_codecs hpart
    have h₂ := variant.sizeOf_payload_lt
    have h₃ := List.sizeOf_lt_of_mem hvariant
    simp only [Codec.enum.sizeOf_spec]
    omega

/-- **Induction along the parts.** What passes from the parts to the whole holds of every codec. -/
@[elab_as_elim]
theorem induction_parts {motive : Codec → Prop}
    (step : ∀ codec, (∀ part ∈ codec.parts, motive part) → motive codec) (codec : Codec) :
    motive codec :=
  step codec fun part _ => induction_parts step part
  termination_by sizeOf codec
  decreasing_by exact sizeOf_lt_of_mem_parts ‹_›

end Codec

end DartClient
