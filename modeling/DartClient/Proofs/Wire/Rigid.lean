import DartClient.Proofs.Wire.Rewriting

/-!
# Rigid codecs

A codec is rigid if it leaves no choice in how a value is written: no number is short, since a short
integer may be followed by empty groups; no option has a gap, since anything may stand in it; and no
size is put around a codec, since what the codec leaves of its bytes is passed over. What is decoded
with a rigid codec is encoded to the bytes that it was decoded from, so a value has no other bytes.

## Main definitions

* `Codec.Rigid`: the codec itself leaves no choice.

## Main results

* `Codec.encode_read`: encoding undoes decoding.
-/

namespace DartClient

open Idl (NumberFormat)
open Step

namespace Codec

/-- The codec itself, apart from its parts, leaves no choice in how a value is written. -/
def Rigid : Codec → Prop
  | .number format | .boolean format => format ≠ .shortU16
  | .string length | .bytes length | .list _ length | .set _ length | .map _ _ length =>
    length ≠ .prefixed .shortU16
  | .option _ flag isFixed => flag ≠ .shortU16 ∧ isFixed = false
  | .enum _ size _ => size ≠ .shortU16
  | .sizePrefixed _ _ | .fixedSize _ _ => False
  | _ => True

variable {codec : Codec}

/-- A rigid codec stores no short integer. -/
theorem Rigid.stored_ne_short (h : codec.Rigid) {value : Value} {format : NumberFormat} {n : Nat}
    (hstored : codec.stored? value = some (format, n)) : format ≠ .shortU16 := by
  rintro rfl
  cases codec
  case number format =>
    obtain ⟨m, -, hm⟩ := Option.map_eq_some_iff.mp hstored
    exact h (Prod.mk.inj hm).1
  case string length | bytes length | list _ length | set _ length | map _ _ length =>
    cases length
    case prefixed format =>
      cases value <;> cases hstored
      exact h rfl
    all_goals cases value <;> cases hstored
  case boolean | enum =>
    cases value <;> cases hstored
    exact h rfl
  case option =>
    cases value <;> cases hstored
    exact h.1 rfl
  all_goals cases hstored

/-- What is read with a rigid codec is written to the bytes that it was read from. -/
theorem rewrites_of_rigid (hnames : codec.DistinctNames) (hrigid : codec.Throughout Rigid) :
    ∀ value, codec.Rewrites (· = ·) value := by
  induction codec using induction_parts with
  | step codec ih =>
  intro value
  have hwrapper : codec.isWrapper = false := by
    cases codec
    case sizePrefixed | fixedSize => exact hrigid.own.elim
    all_goals rfl
  refine rewrites_of_places byteOrder_eq hwrapper hnames.own ?_ ?_ fun place hplace => ?_
  · intro format n hstored
    exact sizeRewrites_of_ne_short byteOrder_eq (hrigid.own.stored_ne_short hstored) n
  · rintro item flag rfl
    cases hrigid.own.2
  · have hpart := fst_mem_parts hplace
    exact ih place.1 hpart (hnames.of_part hpart) (hrigid.of_part hpart) place.2

/-- **Encoding undoes decoding** with a rigid codec whose fields have distinct names: what is decoded
is encoded to the bytes that were taken for it. So no value is decoded from two byte strings. -/
theorem encode_read (hnames : codec.DistinctNames) (hrigid : codec.Throughout Rigid) :
    (∀ input value rest, codec.read input = (.ok value, rest) →
      ∃ taken, input = taken ++ rest ∧ codec.encode value = .ok taken) ∧
    ∀ input input' value rest rest', codec.read input = (.ok value, rest) →
      codec.read input' = (.ok value, rest') →
        ∃ taken, input = taken ++ rest ∧ input' = taken ++ rest' := by
  have hencode : ∀ input value rest, codec.read input = (.ok value, rest) →
      ∃ taken, input = taken ++ rest ∧ codec.encode value = .ok taken := by
    intro input value rest hread
    obtain ⟨taken, bytes, hinput, hbytes, rfl⟩ :=
      rewrites_of_rigid hnames hrigid value input rest hread
    exact ⟨bytes, hinput, encode_eq_ok_iff.mpr hbytes⟩
  refine ⟨hencode, fun input input' value rest rest' hread hread' => ?_⟩
  obtain ⟨taken, hinput, hbytes⟩ := hencode input value rest hread
  obtain ⟨taken', hinput', hbytes'⟩ := hencode input' value rest' hread'
  obtain rfl := Except.ok.inj (hbytes.symm.trans hbytes')
  exact ⟨taken, hinput, hinput'⟩

/-- A move by a number of steps, with a turn that may be absent. -/
theorem encode_read_move :
    let codec : Codec := .struct "Move"
      [⟨"steps", .number .i16⟩, ⟨"turn", .option (.boolean .u8) .i32 false⟩]
    let value : Value := .struct
      [("steps", .signed (-2)), ("turn", .option (some (.bool true)))]
    codec.read [254, 255, 1, 0, 0, 0, 1, 7] = (.ok value, [7]) ∧
      codec.encode value = .ok [254, 255, 1, 0, 0, 0, 1] ∧
      ∀ input rest, codec.read input = (.ok value, rest) →
        input = [254, 255, 1, 0, 0, 0, 1] ++ rest := by
  intro codec value
  have hread : codec.read [254, 255, 1, 0, 0, 0, 1, 7] = (.ok value, [7]) := rfl
  have hnames : codec.DistinctNames := by
    refine .intro (by simp [codec, OwnNamesDistinct]) fun part hpart => ?_
    simp only [codec, parts, List.map_cons, List.map_nil, List.mem_cons, List.not_mem_nil,
      or_false] at hpart
    rcases hpart with rfl | rfl
    · exact .intro trivial (by simp [parts])
    · refine .intro trivial fun part hpart => ?_
      obtain rfl := List.mem_singleton.mp hpart
      exact .intro trivial (by simp [parts])
  have hrigid : codec.Throughout Rigid := by
    refine .intro trivial fun part hpart => ?_
    simp only [codec, parts, List.map_cons, List.map_nil, List.mem_cons, List.not_mem_nil,
      or_false] at hpart
    rcases hpart with rfl | rfl
    · exact .intro (by simp [Rigid]) (by simp [parts])
    · refine .intro (by simp [Rigid]) fun part hpart => ?_
      obtain rfl := List.mem_singleton.mp hpart
      exact .intro (by simp [Rigid]) (by simp [parts])
  obtain ⟨hencode, hunique⟩ := encode_read hnames hrigid
  have htaken : ∀ {taken}, ([254, 255, 1, 0, 0, 0, 1, 7] : List UInt8) = taken ++ [7] →
      [254, 255, 1, 0, 0, 0, 1] = taken :=
    fun {taken} h =>
      List.append_cancel_right (show [254, 255, 1, 0, 0, 0, 1] ++ [7] = taken ++ [7] from h)
  obtain ⟨taken, hinput, hbytes⟩ := hencode _ value [7] hread
  obtain rfl := htaken hinput
  refine ⟨hread, hbytes, fun input rest hread' => ?_⟩
  obtain ⟨taken, hinput, hinput'⟩ := hunique _ input value [7] rest hread hread'
  obtain rfl := htaken hinput
  exact hinput'

end Codec

end DartClient
