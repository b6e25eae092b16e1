import DartClient.Manifest.Resolve
import DartClient.Wire.Encode

/-!
# Encodings of seeds

How the value of a variable seed turns into bytes, both when it is evaluated here and in generated
code. Texts and bytes are taken as they are, without their length; numbers are written least
significant byte first.

## Main definitions

* `SeedEncoding`: the encodings, with `SeedEncoding.ofCodec?` for those of layouts.
* `SeedEncoding.encode`: the bytes of a value.
* `SeedEncoding.expression`: the bytes of a variable of generated code.
-/

namespace DartClient

open Idl (NumberFormat TypeNode)

/-- The alias of the module with conversions of texts. -/
def convertModule : String := "dartConvert"

/-- The path of the generated file with the encoders of numbers. -/
def encoderModule : String := "shared.dart"

/-- The function of generated code that encodes numbers of a format. -/
def encoderName (format : NumberFormat) : String := "encode" ++ Text.upperCamel format.name

/-- How the value of a seed turns into bytes. -/
inductive SeedEncoding where
  /-- A text in UTF-8. -/
  | utf8
  /-- A number. -/
  | number (format : NumberFormat)
  /-- A flag written as a number. -/
  | boolean (format : NumberFormat)
  /-- The bytes of an address. -/
  | publicKey
  /-- Bytes. -/
  | bytes
  /-- The bytes of a defined class with fields. -/
  | layout (codec : Codec)

namespace SeedEncoding

/-- The encoding of seeds of a layout. -/
def ofCodec? : Codec → Option SeedEncoding
  | .string _ => some .utf8
  | .number format => some (.number format)
  | .boolean format => some (.boolean format)
  | .publicKey => some .publicKey
  | .bytes _ => some .bytes
  | .typedArray (.number .u8) _ => some .bytes
  | .defined name .struct => some (.layout (.defined name .struct))
  | _ => none

/-- The name of an encoding in messages. -/
def name : SeedEncoding → String
  | utf8 => "Utf8"
  | number _ => "Number"
  | boolean _ => "Bool"
  | publicKey => "PublicKey"
  | bytes => "Bytes"
  | layout _ => "Borsh"

/-- The bytes of a value; the seed is named in messages. -/
def encode (encoding : SeedEncoding) (value : Value) (seed : String) :
    Except ClientError (List UInt8) :=
  match encoding, value with
  | .utf8, .string text => .ok (Text.Utf8.encode text)
  | .bytes, .bytes data => .ok data
  | .publicKey, .publicKey address => .ok address.bytes
  | .number format, value => ((Codec.number format).encode value).mapError .wire
  | .boolean format, value => ((Codec.boolean format).encode value).mapError .wire
  | .layout codec, value => (codec.encode value).mapError .wire
  | encoding, value => .error (.seedMismatch seed value encoding.name)

/-- The expression for the bytes of a variable. -/
def expression (encoding : SeedEncoding) (operand : String) : String :=
  match encoding with
  | utf8 => "utf8.encode(" ++ operand ++ ")"
  | number format => encoderName format ++ "(" ++ operand ++ ")"
  | boolean format => encoderName format ++ "(" ++ operand ++ " ? 1 : 0)"
  | publicKey => operand ++ ".bytes"
  | bytes => operand
  | layout _ => operand ++ ".toBorsh()"

/-- What the expression needs to import. -/
def imports : SeedEncoding → ImportMap
  | utf8 => ImportMap.empty.add convertModule ["utf8"]
  | number format | boolean format => ImportMap.empty.add encoderModule [encoderName format]
  | publicKey | bytes | layout _ => .empty

end SeedEncoding

/-- The encoding of seeds of a type, and the type of their values in generated code. -/
def Resolver.seedEncoding (resolver : Resolver) (type : TypeNode) (seed : String) :
    Resolved (SeedEncoding × String) := do
  let manifest ← resolver.resolve type (.root seed .instruction)
  match SeedEncoding.ofCodec? manifest.codec with
  | some encoding => return (encoding, manifest.targetType)
  | none => .error (.unsupportedType seed type.kind .notSeed)

end DartClient
