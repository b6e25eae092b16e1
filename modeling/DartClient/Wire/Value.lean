import DartClient.Address.Basic
import DartClient.Number.Layout
import DartClient.Text.Record

/-!
# Values

The values that a codec writes and reads, without regard to the generated classes.

## Main definitions

* `Value`: values.
* `Value.unsigned?`, `Value.signed?`: the integers among them.
* `Value.render`: the text that a message shows.
-/

namespace DartClient

open Number (Double)

/-- A value that can be written with a codec. -/
inductive Value where
  /-- An integer without sign. -/
  | unsigned (n : Nat)
  /-- An integer with a sign. -/
  | signed (i : Int)
  /-- A floating point number. -/
  | float (x : Double)
  /-- A flag. -/
  | bool (b : Bool)
  /-- A text. -/
  | string (s : String)
  /-- Bytes. -/
  | bytes (data : List UInt8)
  /-- An address. -/
  | publicKey (address : Address)
  /-- A value that may be absent. -/
  | option (value : Option Value)
  /-- Items of a list or set. -/
  | list (items : List Value)
  /-- Entries of a map. -/
  | map (entries : List (Value × Value))
  /-- Items of a tuple. -/
  | tuple (items : List Value)
  /-- Named fields. -/
  | struct (fields : List (String × Value))
  /-- The index of a variant and its payload. -/
  | enum (index : Nat) (fields : List Value)

namespace Value

/-- The value as an integer without sign, if it is one. -/
def unsigned? : Value → Option Nat
  | .unsigned n => some n
  | .signed (.ofNat n) => some n
  | _ => none

/-- The value as an integer of 128 bits with a sign, if it is one. -/
def signed? : Value → Option Int
  | .unsigned n => if n < Nat.pow 2 127 then some n else none
  | .signed i => some i
  | _ => none

/-- What a value is, in one or two words. -/
def describe : Value → String
  | .unsigned _ | .signed _ => "integer"
  | .float _ => "float"
  | .bool _ => "bool"
  | .string _ => "string"
  | .bytes _ => "bytes"
  | .publicKey _ => "public key"
  | .option _ => "option"
  | .list _ => "list"
  | .map _ => "map"
  | .tuple _ => "tuple"
  | .struct _ => "struct"
  | .enum _ _ => "enum"

/-! ## Text -/

/-- The text of bytes. -/
def renderBytes (bytes : List UInt8) : String :=
  Text.listText (bytes.map fun b => toString b.toNat)

mutual

/-- The text of a value. -/
def render : Value → String
  | .unsigned n => Text.callText "Unsigned" (toString n)
  | .signed i => Text.callText "Signed" (toString i)
  | .float x => Text.callText "Float" (Number.valueLayout.render x)
  | .bool b => Text.callText "Bool" (toString b)
  | .string s => Text.callText "String" (Text.quoteText s)
  | .bytes data => Text.callText "Bytes" (renderBytes data)
  | .publicKey address => Text.callText "PublicKey" (renderBytes address.bytes)
  | .option none => Text.callText "Option" (Text.optionText none)
  | .option (some value) => Text.callText "Option" (Text.optionText (some value.render))
  | .list items => Text.callText "List" (Text.listText (renderItems items))
  | .map entries => Text.callText "Map" (Text.listText (renderEntries entries))
  | .tuple items => Text.callText "Tuple" (Text.listText (renderItems items))
  | .struct fields => Text.callText "Struct" (Text.listText (renderFields fields))
  | .enum index fields =>
    Text.recordText "Enum"
      [("index", toString index), ("fields", Text.listText (renderItems fields))]

/-- The texts of items. -/
def renderItems : List Value → List String
  | [] => []
  | item :: items => item.render :: renderItems items

/-- The texts of entries. -/
def renderEntries : List (Value × Value) → List String
  | [] => []
  | (key, value) :: entries =>
    Text.callText "" (key.render ++ ", " ++ value.render) :: renderEntries entries

/-- The texts of fields. -/
def renderFields : List (String × Value) → List String
  | [] => []
  | (name, value) :: fields =>
    Text.callText "" (Text.quoteText name ++ ", " ++ value.render) :: renderFields fields

end

end Value

end DartClient
