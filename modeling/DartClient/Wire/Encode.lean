import DartClient.Codec.Size
import DartClient.Wire.Number

/-!
# Encoding

Writing a value with a codec. A value of the wrong sort is refused. A value below a size wrapper is
written to a buffer of its own, so nothing of it is left behind if it fails.

## Main definitions

* `Codec.write`: writing behind what is already written.
* `Codec.encode`: the bytes of a value.
-/

namespace DartClient

open Idl (NumberFormat)

/-- Writes the number of items, where it is stored, and checks it, where it is fixed. -/
def writeCount (length : Length) (actual : Nat) (place : String) : Step Unit :=
  match length with
  | .prefixed format => writeNumber format (.unsigned actual)
  | .fixed expected =>
    if expected = actual then .done () else .fail (.wrongItemCount place expected actual)
  | .remainder => .done ()

/-- Writes bytes with their length. -/
def writeBytes (length : Length) (bytes : List UInt8) (place : String) : Step Unit :=
  match length with
  | .fixed size =>
    if bytes.length = size then .append bytes
    else .fail (.wrongByteCount place size bytes.length)
  | _ => do
    writeCount length bytes.length place
    .append bytes

/-- Runs a writer on an empty buffer and hands over what it wrote. -/
def Step.buffered (write : Step Unit) (next : List UInt8 → Step Unit) : Step Unit :=
  match write [] with
  | (.ok (), bytes) => next bytes
  | (.error error, _) => .fail error

/-- The number of parts of a payload. -/
def Payload.arity : Payload → Nat
  | .empty => 0
  | .tuple items => items.length
  | .struct fields => fields.length

mutual

/-- Writes a value. -/
def Codec.write : Codec → Value → Step Unit
  | .number format, value => writeNumber format value
  | .boolean format, .bool flag => writeNumber format (.unsigned flag.toNat)
  | .string length, .string text => writeBytes length (Text.Utf8.encode text) "string"
  | .bytes length, .bytes bytes => writeBytes length bytes "bytes"
  | .publicKey, .publicKey address => .append address.bytes
  | .option item flag _, .option (some value) =>
    .andThen (writeNumber flag (.unsigned 1)) fun _ => item.write value
  | .option item flag isFixed, .option none =>
    .andThen (writeNumber flag (.unsigned 0)) fun _ =>
      if isFixed then
        match item.fixedSize? with
        | some size => .append (List.replicate size 0)
        | none => .fail .noFixedSize
      else .done ()
  | .list item count, .list items =>
    .andThen (writeCount count items.length "list") fun _ => .each item.write items
  | .set item count, .list items =>
    .andThen (writeCount count items.length "list") fun _ => .each item.write items
  | .typedArray item count, .list items =>
    .andThen (writeCount (.fixed count) items.length "typed array") fun _ =>
      .each item.write items
  | .map key value count, .map entries =>
    .andThen (writeCount count entries.length "map") fun _ =>
      .each (fun (k, v) => .andThen (key.write k) fun _ => value.write v) entries
  | .tuple items, .tuple values =>
    if items.length = values.length then writeItems items values
    else .fail (.mismatch .composite (.tuple values))
  | .struct _ fields, .struct values => writeFields fields values
  | .enum name size variants, .enum index values =>
    writeVariant name size index values variants index
  | .sizePrefixed inner width, value =>
    .buffered (inner.write value) fun bytes =>
      .andThen (writeNumber width (.unsigned bytes.length)) fun _ => .append bytes
  | .fixedSize inner size, value =>
    .buffered (inner.write value) fun bytes =>
      if bytes.length = size then .append bytes
      else .fail (.wrongFixedSize size bytes.length)
  | .defined name _, _ => .fail (.writtenReference name)
  | .unknown kind, _ => .fail (.noLayout kind)
  | codec, value => .fail (.mismatch codec.kind value)

/-- Writes items in a row. -/
def writeItems : List Codec → List Value → Step Unit
  | item :: items, value :: values =>
    .andThen (item.write value) fun _ => writeItems items values
  | _, _ => .done ()

/-- Writes fields in a row, each with the first value of its name. -/
def writeFields : List FieldCodec → List (String × Value) → Step Unit
  | [], _ => .done ()
  | ⟨name, codec⟩ :: fields, values =>
    match values.lookup name with
    | some value => .andThen (codec.write value) fun _ => writeFields fields values
    | none => .fail (.missingField name)

/-- Writes the index and the payload of the variant at a position of a list. -/
def writeVariant (name : String) (size : NumberFormat) (index : Nat) (values : List Value) :
    List VariantCodec → Nat → Step Unit
  | [], _ => .fail (.noVariant name index)
  | ⟨_, _, payload⟩ :: _, 0 =>
    if values.length = payload.arity then
      .andThen (writeNumber size (.unsigned index)) fun _ => payload.write values
    else .fail (.wrongPayload name index payload.arity values.length)
  | _ :: variants, position + 1 => writeVariant name size index values variants position

/-- Writes a payload. -/
def Payload.write : Payload → List Value → Step Unit
  | .empty, _ => .done ()
  | .tuple items, values => writeItems items values
  | .struct fields, values => writeFields fields ((fields.map FieldCodec.name).zip values)

end

/-- The bytes of a value. -/
def Codec.encode (codec : Codec) (value : Value) : Except WireError (List UInt8) :=
  match codec.write value [] with
  | (.ok (), written) => .ok written
  | (.error error, _) => .error error

end DartClient
