import DartClient.Proofs.Account.OwnData
import DartClient.Seed.Encoding

/-!
# What encodings of seeds take

The encoding of a seed is the one that the codec of its type gives. Each encoding takes values of
one sort, apart from that of the layout of a class, which takes none. Texts, bytes and addresses are
seeds as they are, whichever encoding takes them; only numbers and flags are written.

## Main definitions

* `SeedEncoding.OfCodec`: which encoding a codec gives.
* `SeedEncoding.Encodes`: which values an encoding takes, and their bytes.
* `Value.ownBytes?`: the bytes of texts, bytes and addresses.

## Main results

* `Resolver.seedEncoding_eq_ok_iff`: the encoding of a seed.
* `SeedEncoding.encodes_of_encode`, `Resolver.encodes_of_seedEncoding`: what is encoded.
* `SeedEncoding.Encodes.eq_of_ownBytes?`: what has bytes of its own is encoded to these.
-/

namespace DartClient

open Idl (TypeNode NumberFormat)
open Step (Writes)

/-- Nothing but integers and floating point numbers is written as a number. -/
theorem not_writes_number {format : NumberFormat} {value : Value} {bytes : List UInt8}
    (hinteger : value.integer? = none) (hfloat : ∀ x, value ≠ .float x) :
    ¬ Writes (writeNumber format value) bytes := by
  intro h
  have hunsigned : value.unsigned? = none := by
    cases value <;> simp_all [Value.integer?, Value.unsigned?]
  have hsigned : value.signed? = none := by
    cases value <;> simp_all [Value.integer?, Value.signed?]
  cases format
  case u8 | u16 | u32 | u64 | u128 => simp [writeNumber, writes_unsigned_iff, hunsigned] at h
  case i8 | i16 | i32 | i64 | i128 => simp [writeNumber, writes_signed_iff, hsigned] at h
  case f32 | f64 => simp [writeNumber, writes_float_iff, hfloat] at h
  case shortU16 => simp [writeNumber, writeShort, hunsigned] at h

/-- The bytes of a text, of bytes or of an address, as they are. -/
def Value.ownBytes? : Value → Option (List UInt8)
  | .string text => some (Text.Utf8.encode text)
  | .bytes data => some data
  | .publicKey address => some address.bytes
  | _ => none

namespace SeedEncoding

variable {codec : Codec} {encoding : SeedEncoding} {value : Value} {bytes : List UInt8}

/-- The encoding that a codec gives. -/
inductive OfCodec : Codec → SeedEncoding → Prop
  | string (length : Length) : OfCodec (.string length) .utf8
  | number (format : NumberFormat) : OfCodec (.number format) (.number format)
  | boolean (format : NumberFormat) : OfCodec (.boolean format) (.boolean format)
  | publicKey : OfCodec .publicKey .publicKey
  | bytes (length : Length) : OfCodec (.bytes length) .bytes
  | byteArray (count : Nat) : OfCodec (.typedArray (.number .u8) count) .bytes
  | layout (name : String) : OfCodec (.defined name .struct) (.layout (.defined name .struct))

theorem ofCodec?_eq_some_iff : ofCodec? codec = some encoding ↔ OfCodec codec encoding := by
  constructor
  · intro h
    unfold ofCodec? at h
    split at h
    case h_8 => cases h
    all_goals obtain rfl := Option.some.inj h
    case h_1 length => exact .string length
    case h_2 format => exact .number format
    case h_3 format => exact .boolean format
    case h_4 => exact .publicKey
    case h_5 length => exact .bytes length
    case h_6 count => exact .byteArray count
    case h_7 name => exact .layout name
  · intro h
    cases h <;> rfl

/-- Which values an encoding takes, and their bytes. A class with fields has an encoding that
takes none, as its layout is not at hand. -/
inductive Encodes : SeedEncoding → Value → List UInt8 → Prop
  | utf8 (text : String) : Encodes .utf8 (.string text) (Text.Utf8.encode text)
  | bytes (data : List UInt8) : Encodes .bytes (.bytes data) data
  | publicKey (address : Address) : Encodes .publicKey (.publicKey address) address.bytes
  | number {format : NumberFormat} {value : Value} {bytes : List UInt8}
      (h : Writes (writeNumber format value) bytes) : Encodes (.number format) value bytes
  | boolean {format : NumberFormat} {flag : Bool} {bytes : List UInt8}
      (h : Writes (writeNumber format (.unsigned flag.toNat)) bytes) :
      Encodes (.boolean format) (.bool flag) bytes

theorem encodes_of_encode {seed : String} (hof : OfCodec codec encoding)
    (h : encoding.encode value seed = .ok bytes) : encoding.Encodes value bytes := by
  cases encoding with
  | utf8 =>
    cases value with
    | string text =>
      obtain rfl := Except.ok.inj h
      exact .utf8 text
    | _ => cases h
  | bytes =>
    cases value with
    | bytes data =>
      obtain rfl := Except.ok.inj h
      exact .bytes data
    | _ => cases h
  | publicKey =>
    cases value with
    | publicKey address =>
      obtain rfl := Except.ok.inj h
      exact .publicKey address
    | _ => cases h
  | number format =>
    have hwrites := Codec.encode_eq_ok_iff.mp (mapError_eq_ok_iff.mp h)
    exact .number hwrites
  | boolean format =>
    have hwrites := Codec.encode_eq_ok_iff.mp (mapError_eq_ok_iff.mp h)
    obtain ⟨flag, rfl, hflag⟩ := writes_boolean_iff.mp hwrites
    exact .boolean hflag
  | layout inner =>
    -- The only layouts are those of classes of defined types, and these are not written.
    cases hof with
    | layout name =>
      have hencode : (layout (.defined name .struct)).encode value seed =
        ((Codec.defined name .struct).encode value).mapError .wire := by cases value <;> rfl
      rw [hencode] at h
      have hwrites := Codec.encode_eq_ok_iff.mp (mapError_eq_ok_iff.mp h)
      exact absurd hwrites not_writes_defined

/-- **What has bytes of its own is encoded to these**, whatever the encoding. -/
theorem Encodes.eq_of_ownBytes? (h : encoding.Encodes value bytes) {own : List UInt8}
    (hown : value.ownBytes? = some own) : bytes = own := by
  cases h with
  | utf8 | bytes | publicKey => exact Option.some.inj hown
  | number hwrites =>
    -- None of these values is written as a number.
    cases value with
    | string | bytes | publicKey => exact absurd hwrites (not_writes_number rfl nofun)
    | _ => cases hown
  | boolean => cases hown

end SeedEncoding

namespace Resolver

variable {resolver : Resolver} {type : TypeNode} {name targetType : String}
  {encoding : SeedEncoding}

/-- The encoding of a seed is the one that the codec of its type gives. -/
theorem seedEncoding_eq_ok_iff :
    resolver.seedEncoding type name = .ok (encoding, targetType) ↔
      ∃ manifest, resolver.resolve type (.root name .instruction) = .ok manifest ∧
        SeedEncoding.OfCodec manifest.codec encoding ∧ manifest.targetType = targetType := by
  unfold seedEncoding
  rw [Resolved.bind_eq_ok_iff]
  refine exists_congr fun manifest => and_congr_right fun _ => ?_
  rw [← SeedEncoding.ofCodec?_eq_some_iff]
  split
  case h_1 found hfound =>
    rw [hfound, Option.some.injEq, ← Prod.mk.injEq]
    exact ⟨Except.ok.inj, congrArg Except.ok⟩
  case h_2 hnone => simp [hnone]

/-- The encoding of a seed takes what is encoded with it. -/
theorem encodes_of_seedEncoding
    (hencoding : resolver.seedEncoding type name = .ok (encoding, targetType)) {value : Value}
    {place : String} {bytes : List UInt8} (h : encoding.encode value place = .ok bytes) :
    encoding.Encodes value bytes := by
  obtain ⟨manifest, -, hof, -⟩ := seedEncoding_eq_ok_iff.mp hencoding
  exact SeedEncoding.encodes_of_encode hof h

end Resolver

end DartClient
