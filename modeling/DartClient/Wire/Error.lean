import DartClient.Codec.Basic
import DartClient.Text.Utf8
import DartClient.Wire.Value

/-!
# Why a value cannot be written or read

Each cause is a constructor. A cause is shown as a place, such as the name of a field or format,
and a reason.

## Main definitions

* `WireError`: the causes.
* `WireError.place`, `WireError.reason`: the two parts of the text.
-/

namespace DartClient

open Idl (NumberFormat)

/-- Why a value cannot be written with a codec, or bytes cannot be read with it. -/
inductive WireError where
  /-- A number without sign is written with a value that is none. -/
  | expectedUnsigned (format : NumberFormat) (value : Value)
  /-- A number with a sign is written with a value that is none. -/
  | expectedSigned (format : NumberFormat) (value : Value)
  /-- A floating point number is written with a value that is none. -/
  | expectedFloat (format : NumberFormat)
  /-- An integer does not fit into the format. -/
  | outOfRange (format : NumberFormat) (value : Int)
  /-- An integer does not fit into the short format. -/
  | shortOutOfRange
  /-- Not a number is not written. -/
  | writtenNaN (format : NumberFormat)
  /-- Not a number is not read. -/
  | readNaN (format : NumberFormat)
  /-- The input ends inside a number. -/
  | endOfInput (format : NumberFormat)
  /-- A short integer goes on behind its third byte. -/
  | shortTooLong
  /-- Fewer bytes are left than are needed. -/
  | tooFewBytes (place : String) (expected left : Nat)
  /-- A list of fixed length is written with another number of items. -/
  | wrongItemCount (place : String) (expected actual : Nat)
  /-- Bytes of fixed length are written with another number of bytes. -/
  | wrongByteCount (place : String) (expected actual : Nat)
  /-- The value is not of the sort that the codec writes. -/
  | mismatch (kind : CodecKind) (value : Value)
  /-- The number of items is no size. -/
  | lengthTooGreat
  /-- The number of bytes is no size. -/
  | invalidSize
  /-- A flag is neither zero nor one. -/
  | invalidFlag (flag : Option Nat)
  /-- A presence flag is neither zero nor one. -/
  | invalidPresence (flag : Option Nat)
  /-- The bytes are not a text. -/
  | invalidText (fault : Text.Utf8.Fault)
  /-- The item of a fixed option has no fixed size. -/
  | noFixedSize
  /-- A field has no value. -/
  | missingField (name : String)
  /-- No variant has the index. -/
  | noVariant (name : String) (index : Nat)
  /-- A variant is written with another number of values. -/
  | wrongPayload (name : String) (index expected actual : Nat)
  /-- The index of a variant is no size. -/
  | invalidVariant (name : String)
  /-- The bytes of a value of fixed size are more or fewer. -/
  | wrongFixedSize (expected actual : Nat)
  /-- A reference to a class has no layout to write with. -/
  | writtenReference (name : String)
  /-- A reference to a class has no layout to read with. -/
  | readReference (name : String)
  /-- A type of unknown kind has no layout. -/
  | noLayout (kind : String)
  /-- An item that takes no bytes would be read for ever. -/
  | endless

namespace WireError

/-- Where the fault is. -/
def place : WireError → String
  | expectedUnsigned format _ | expectedSigned format _ | expectedFloat format
  | outOfRange format _ | writtenNaN format | readNaN format | endOfInput format => format.name
  | shortOutOfRange | shortTooLong => "shortU16"
  | tooFewBytes place _ _ | wrongItemCount place _ _ | wrongByteCount place _ _ => place
  | mismatch kind _ => kind.name
  | lengthTooGreat => "length prefix"
  | invalidSize => "size prefix"
  | invalidFlag _ => "bool"
  | invalidPresence _ => "option"
  | invalidText _ => "string"
  | noFixedSize => "fixed option"
  | missingField name | noVariant name _ | wrongPayload name _ _ _ | invalidVariant name
  | writtenReference name | readReference name => name
  | wrongFixedSize _ _ => "fixed size"
  | noLayout kind => kind
  | endless => "remainder"

/-- What the fault is. -/
def reason : WireError → String
  | expectedUnsigned _ value => "expected an unsigned integer, got " ++ value.render
  | expectedSigned _ value => "expected an integer, got " ++ value.render
  | expectedFloat _ => "expected a float"
  | outOfRange _ value => "`" ++ toString value ++ "` is out of range"
  | shortOutOfRange => "value does not fit in 16 bits"
  | writtenNaN _ => "For portability reasons we do not allow to serialize NaNs."
  | readNaN _ => "For portability reasons we do not allow to deserialize NaNs."
  | endOfInput _ => "Unexpected length of input"
  | shortTooLong => "more than 3 bytes"
  | tooFewBytes _ expected left =>
    "expected " ++ toString expected ++ " bytes, " ++ toString left ++ " left"
  | wrongItemCount _ expected actual =>
    "expected exactly " ++ toString expected ++ " items, got " ++ toString actual
  | wrongByteCount _ expected actual =>
    "expected exactly " ++ toString expected ++ " bytes, got " ++ toString actual
  | mismatch _ value => "cannot encode a " ++ value.describe ++ " with this codec"
  | lengthTooGreat => "length does not fit in usize"
  | invalidSize => "invalid size"
  | invalidFlag flag => "invalid flag " ++ Text.optionText (flag.map toString)
  | invalidPresence flag => "invalid presence flag " ++ Text.optionText (flag.map toString)
  | invalidText fault => fault.message
  | noFixedSize => "item has no fixed size"
  | missingField _ => "missing struct field value"
  | noVariant _ index => "no variant at index " ++ toString index
  | wrongPayload _ index expected actual =>
    "variant " ++ toString index ++ " takes " ++ toString expected ++ " values, got " ++
      toString actual
  | invalidVariant _ => "invalid variant index"
  | wrongFixedSize expected actual =>
    "expected exactly " ++ toString expected ++ " bytes, got " ++ toString actual
  | writtenReference _ => "defined type references must be resolved before encoding"
  | readReference _ => "defined type references must be resolved before decoding"
  | noLayout _ => "opaque fallbacks have no binary layout"
  | endless => "an item takes no bytes"

end WireError

end DartClient
