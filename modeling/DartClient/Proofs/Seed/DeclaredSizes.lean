import DartClient.Proofs.Seed.Encodings
import DartClient.Proofs.Text.Utf8
import DartClient.Proofs.Wire.Size

/-!
# Seeds of declared sizes

The type of a seed may have an exact size: that of a number, of a flag, of an address, or one that
is declared around a text or around bytes. The encoding of the seed is computed from the codec of
the type, but it keeps less of it than the codec knows. Numbers, flags and addresses have the bytes
that the codec writes. Texts and bytes are taken as they are, also where a size was declared, so a
seed of theirs has this size only if the value happens to have it.

## Main definitions

* `SeedEncoding.IsVerbatim`: the encodings that take texts or bytes as they are.

## Main results

* `SeedEncoding.writes_of_encodes`: which encodings have the bytes of the codec.
* `SeedEncoding.IsVerbatim.exists_encode`: the other ones have seeds of every length.
* `Resolver.length_eq_size_iff`: when a seed has the size of its type.
-/

namespace DartClient

open Idl (TypeNode NumberFormat)
open Step (Writes)

namespace SeedEncoding

variable {codec : Codec} {encoding : SeedEncoding} {value : Value} {bytes : List UInt8}

/-- The encoding takes texts or bytes as they are. -/
inductive IsVerbatim : SeedEncoding → Prop
  | utf8 : IsVerbatim .utf8
  | bytes : IsVerbatim .bytes

/-- An encoding that is not verbatim has the bytes that the codec writes. -/
theorem writes_of_encodes (hof : OfCodec codec encoding) (hverbatim : ¬ encoding.IsVerbatim)
    (h : encoding.Encodes value bytes) : Writes (codec.write value) bytes := by
  cases hof with
  | string => exact absurd .utf8 hverbatim
  | bytes | byteArray => exact absurd .bytes hverbatim
  | number format =>
    cases h with
    | number hwrites => exact hwrites
  | boolean format =>
    cases h with
    | boolean hwrites => exact writes_boolean_iff.mpr ⟨_, rfl, hwrites⟩
  | publicKey =>
    cases h with
    | publicKey address => exact writes_publicKey_iff.mpr ⟨address, rfl, rfl⟩
  | layout => cases h

/-- A verbatim encoding takes only values that have bytes of their own. -/
theorem Encodes.ownBytes?_eq (h : encoding.Encodes value bytes) (hverbatim : encoding.IsVerbatim) :
    value.ownBytes? = some bytes := by
  cases hverbatim with
  | utf8 | bytes =>
    cases h
    rfl

/-- A verbatim encoding takes values of every length. -/
theorem IsVerbatim.exists_encode (h : encoding.IsVerbatim) (length : Nat) : ∃ value bytes,
    bytes.length = length ∧ ∀ place, encoding.encode value place = .ok bytes := by
  cases h with
  | utf8 =>
    refine ⟨.string (String.ofList (List.replicate length 'a')), _, ?_, fun _ => rfl⟩
    exact Text.Utf8.length_encode_replicate length
  | bytes =>
    refine ⟨.bytes (List.replicate length 0), _, ?_, fun _ => rfl⟩
    exact List.length_replicate

end SeedEncoding

namespace Resolver

variable {resolver : Resolver} {type : TypeNode} {name targetType : String}
  {encoding : SeedEncoding} {manifest : Manifest} {size : Nat}

/-- **When a seed has the size of its type.** For a type of an exact size, a seed has this size if
and only if its value has no bytes of its own, or just as many. So the seeds of numbers, flags and
addresses always have it. Those of texts and bytes may have any other size, whatever is declared. -/
theorem length_eq_size_iff
    (hencoding : resolver.seedEncoding type name = .ok (encoding, targetType))
    (hmanifest : resolver.resolve type (.root name .instruction) = .ok manifest)
    (hsize : manifest.codec.fixedSize? = some size) :
    (∀ value place bytes, encoding.encode value place = .ok bytes →
      (bytes.length = size ↔ ∀ own, value.ownBytes? = some own → own.length = size)) ∧
    (¬ encoding.IsVerbatim →
      ∀ value place bytes, encoding.encode value place = .ok bytes → bytes.length = size) ∧
    (encoding.IsVerbatim → ∀ length, ∃ value bytes, bytes.length = length ∧
      ∀ place, encoding.encode value place = .ok bytes) := by
  have hexact : ¬ encoding.IsVerbatim → ∀ value place bytes,
      encoding.encode value place = .ok bytes → bytes.length = size := by
    intro hverbatim value place bytes h
    obtain ⟨own, hown, hof, -⟩ := seedEncoding_eq_ok_iff.mp hencoding
    obtain rfl := Except.ok.inj (hown.symm.trans hmanifest)
    apply (Codec.measures_of_fixedSize? sizeOrder_eq own.codec size hsize).writes value bytes
    exact SeedEncoding.writes_of_encodes hof hverbatim (encodes_of_seedEncoding hencoding h)
  refine ⟨fun value place bytes h => ?_, hexact, fun hverbatim => hverbatim.exists_encode⟩
  have hencodes := encodes_of_seedEncoding hencoding h
  constructor
  · intro hlength own hown
    obtain rfl := hencodes.eq_of_ownBytes? hown
    exact hlength
  · intro hall
    by_cases hverbatim : encoding.IsVerbatim
    · exact hall bytes (hencodes.ownBytes?_eq hverbatim)
    · exact hexact hverbatim value place bytes h

/-- Bytes that are declared to be eight. -/
def tag : TypeNode := .fixedSize .bytes 8

/-- Eight bytes are a seed of eight bytes. -/
theorem length_eq_size_tag : ∃ manifest bytes,
    linkless.seedEncoding tag "tag" = .ok (.bytes, "Uint8List") ∧
    linkless.resolve tag (.root "tag" .instruction) = .ok manifest ∧
    manifest.codec.fixedSize? = some 8 ∧
    SeedEncoding.bytes.encode (.bytes (List.replicate 8 7)) "tag" = .ok bytes ∧
    bytes.length = 8 := by
  have hencoding : linkless.seedEncoding tag "tag" = .ok (.bytes, "Uint8List") := rfl
  obtain ⟨manifest, hmanifest, hsize⟩ : ∃ manifest,
      linkless.resolve tag (.root "tag" .instruction) = .ok manifest ∧
      manifest.codec.fixedSize? = some 8 := ⟨_, rfl, rfl⟩
  obtain ⟨bytes, hbytes⟩ : ∃ bytes,
      SeedEncoding.bytes.encode (.bytes (List.replicate 8 7)) "tag" = .ok bytes := ⟨_, rfl⟩
  refine ⟨manifest, bytes, hencoding, hmanifest, hsize, hbytes, ?_⟩
  obtain ⟨hiff, -, -⟩ := length_eq_size_iff hencoding hmanifest hsize
  apply (hiff _ _ _ hbytes).mpr
  intro own hown
  obtain rfl := Option.some.inj hown
  exact List.length_replicate

/-- Two bytes are a seed of two bytes, although eight are declared. The codec refuses them. -/
theorem length_ne_size_tag : ∃ manifest bytes,
    linkless.seedEncoding tag "tag" = .ok (.bytes, "Uint8List") ∧
    linkless.resolve tag (.root "tag" .instruction) = .ok manifest ∧
    manifest.codec.fixedSize? = some 8 ∧
    SeedEncoding.bytes.encode (.bytes [1, 2]) "tag" = .ok bytes ∧ bytes.length ≠ 8 ∧
    ∃ error, manifest.codec.encode (.bytes [1, 2]) = .error error :=
  ⟨_, [1, 2], rfl, rfl, rfl, rfl, by decide, _, rfl⟩

end Resolver

end DartClient
