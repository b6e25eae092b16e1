import DartClient.Error
import DartClient.Wire.Encode

/-!
# Bytes of literal values

The bytes that literal values stand for: texts of bytes in their encoding, lists of small numbers,
integers in a format, and addresses.

## Main definitions

* `ValueNode.kind`: the kind of a value.
* `BytesValue.decode`: the bytes written by a text.
* `ValueNode.byteArray?`: the bytes of a list of numbers.
* `numberBytes`: the bytes of an integer.
* `readAddress`: the address that a text writes.
-/

namespace DartClient.Idl

/-- The kind of a value, as it is written in a description. -/
def ValueNode.kind : ValueNode → String
  | .number _ => "numberValueNode"
  | .string _ => "stringValueNode"
  | .boolean _ => "booleanValueNode"
  | .bytes _ => "bytesValueNode"
  | .publicKey _ _ => "publicKeyValueNode"
  | .array _ => "arrayValueNode"
  | .tuple _ => "tupleValueNode"
  | .absent => "noneValueNode"
  | .present _ => "someValueNode"
  | .constant _ _ => "constantValueNode"
  | .programId => "programIdValueNode"
  | .unsupported => "unsupported"

/-- A result of reading a text of bytes, as a result of generating. -/
def bytesResult {ε : Type} (place : String) (fault : ε → BytesFault)
    (result : Except ε (List UInt8)) : Except ClientError (List UInt8) :=
  result.mapError fun error => .invalidBytes place (fault error)

/-- The bytes that a text stands for. -/
def BytesValue.decode (value : BytesValue) (place : String) : Except ClientError (List UInt8) :=
  match value.encoding with
  | .base16 => bytesResult place .base16 (Text.Hex.decode value.data)
  | .base58 => bytesResult place .base58 (Text.Base58.decode value.data)
  | .base64 => bytesResult place .base64 (Text.Base64.decode value.data)
  | .utf8 => .ok (Text.Utf8.encode value.data)

/-- The byte that an item of a list stands for. -/
def ValueNode.byte (place : String) : ValueNode → Except ClientError UInt8
  | .number n =>
    match n.toNat?.filter (· < 256) with
    | some byte => .ok (UInt8.ofNat byte)
    | none => .error (.unsupportedValue place "numberValueNode" (.notByte n))
  | value => .error (.unsupportedValue place value.kind .notNumber)

/-- The bytes that a list of values stands for. -/
def listBytes (place : String) (items : List ValueNode) : Except ClientError (List UInt8) :=
  items.mapM (ValueNode.byte place)

/-- The bytes of a value that is a list, and nothing for other values. -/
def ValueNode.byteArray? (value : ValueNode) (place : String) :
    Except ClientError (Option (List UInt8)) :=
  match value with
  | .array items => (listBytes place items).map some
  | _ => .ok none

/-- The integer of a number, as a value to be written. -/
def integerValue? (number : Json.Number) : Option Value :=
  match number with
  | .int (.ofNat n) => some (.unsigned n)
  | .int i => some (.signed i)
  | .float _ => none

/-- The bytes of a number in a format. -/
def numberBytes (place : String) (number : Json.Number) (format : NumberFormat) :
    Except ClientError (List UInt8) :=
  match integerValue? number with
  | some value => ((Codec.number format).encode value).mapError .wire
  | none => .error (.unsupportedValue place "numberValueNode" (.notInteger number))

/-- The address that a text writes. -/
def readAddress (text place : String) : Except ClientError Address :=
  match Address.parse? text with
  | some address => .ok address
  | none => .error (.invalidAddress place text)

end DartClient.Idl
