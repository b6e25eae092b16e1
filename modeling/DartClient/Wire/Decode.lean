import DartClient.Codec.Size
import DartClient.Wire.Number

/-!
# Decoding

Reading a value with a codec from the front of a byte string. A value below a size wrapper is read
from the bytes that belong to it; what it leaves of them is passed over.

## Main definitions

* `Codec.read`: reading one value.
-/

namespace DartClient

/-- A number that is a size, or a failure. -/
def readSize (format : Idl.NumberFormat) (error : WireError) : Step Nat := do
  let value ← readNumber format
  .ofOption (value.unsigned?.filter (· < sizeLimit)) error

/-- Reads items as many as are counted, or until the input is used up. -/
def readList {α : Type} (length : Length) (read : Step α) : Step (List α) :=
  match length with
  | .prefixed format => do Step.repeated read (← readSize format .lengthTooGreat)
  | .fixed count => Step.repeated read count
  | .remainder => Step.untilEmpty read

/-- Reads bytes with their length. -/
def readBytes (length : Length) (place : String) : Step (List UInt8) :=
  match length with
  | .prefixed format => do Step.take (← readSize format .lengthTooGreat) place
  | .fixed size => Step.take size place
  | .remainder => Step.takeAll

mutual

/-- Reads a value. -/
def Codec.read : Codec → Step Value
  | .number format => readNumber format
  | .boolean format => do
    match (← readNumber format).unsigned? with
    | some 0 => return .bool false
    | some 1 => return .bool true
    | other => .fail (.invalidFlag other)
  | .string length => do
    match Text.Utf8.decode (← readBytes length "string") with
    | .ok text => return .string text
    | .error fault => .fail (.invalidText fault)
  | .bytes length => do return .bytes (← readBytes length "bytes")
  | .publicKey => do return .publicKey (← Step.takeAddress)
  | .option item flag isFixed => do
    match (← readNumber flag).unsigned? with
    | some 0 =>
      if isFixed then
        let size ← Step.ofOption item.fixedSize? .noFixedSize
        let _ ← Step.take size "fixed option"
        return .option none
      else return .option none
    | some 1 => return .option (some (← item.read))
    | other => .fail (.invalidPresence other)
  | .list item count => do return .list (← readList count item.read)
  | .set item count => do return .list (← readList count item.read)
  | .typedArray item count => do return .list (← readList (.fixed count) item.read)
  | .map key value count => do
    return .map (← readList count do return (← key.read, ← value.read))
  | .tuple items => do return .tuple (← readItems items)
  | .struct _ fields => do return .struct (← readFields fields)
  | .enum name size variants => do
    let index ← readSize size (.invalidVariant name)
    return .enum index (← readVariant name index variants index)
  | .sizePrefixed inner width => do
    let size ← readSize width .invalidSize
    Step.within (← Step.take size "size prefixed") inner.read
  | .fixedSize inner size => do Step.within (← Step.take size "fixed size") inner.read
  | .defined name _ => .fail (.readReference name)
  | .unknown kind => .fail (.noLayout kind)

/-- Reads items in a row. -/
def readItems : List Codec → Step (List Value)
  | [] => .done []
  | item :: items => do return (← item.read) :: (← readItems items)

/-- Reads fields in a row. -/
def readFields : List FieldCodec → Step (List (String × Value))
  | [] => .done []
  | ⟨name, codec⟩ :: fields => do return (name, ← codec.read) :: (← readFields fields)

/-- Reads the payload of the variant at a position of a list. -/
def readVariant (name : String) (index : Nat) : List VariantCodec → Nat → Step (List Value)
  | [], _ => .fail (.noVariant name index)
  | ⟨_, _, payload⟩ :: _, 0 => payload.read
  | _ :: variants, position + 1 => readVariant name index variants position

/-- Reads a payload. -/
def Payload.read : Payload → Step (List Value)
  | .empty => .done []
  | .tuple items => readItems items
  | .struct fields => do return (← readFields fields).map Prod.snd

end

end DartClient
