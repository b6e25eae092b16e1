import DartClient.Codec.Basic

/-!
# Encoded sizes

The number of bytes of an encoding, where every value takes the same number, and an upper bound,
where there is one. A size is a number of 64 bits; where a sum or product does not fit there is no
size.

## Main definitions

* `Codec.fixedSize?`: the exact size.
* `Codec.maxSize?`: the greatest size.
* `Codec.containsUnknown`: whether a part has no layout.
-/

namespace DartClient

/-- One more than the greatest size. -/
def sizeLimit : Nat := Nat.pow 2 64

/-- A size, if the number is one. -/
def checkedSize (n : Nat) : Option Nat := if n < sizeLimit then some n else none

/-- The common value of a list of sizes; zero for an empty list. -/
def commonSize? : List (Option Nat) → Option Nat
  | [] => some 0
  | size? :: sizes => do
    let size ← size?
    if sizes.all (· == some size) then some size else none

/-- The greatest of a list of sizes; zero for an empty list. -/
def greatestSize? (sizes : List (Option Nat)) : Option Nat :=
  (sizes.mapM id).map fun sizes => sizes.foldl max 0

mutual

/-- The number of bytes that every value takes. -/
def Codec.fixedSize? : Codec → Option Nat
  | .number format | .boolean format => format.byteWidth?
  | .string (.fixed size) | .bytes (.fixed size) => some size
  | .publicKey => some 32
  | .option item flag true => do checkedSize ((← flag.byteWidth?) + (← item.fixedSize?))
  | .list item (.fixed count) | .set item (.fixed count) | .typedArray item count => do
    checkedSize ((← item.fixedSize?) * count)
  | .map key value (.fixed count) => do
    checkedSize ((← checkedSize ((← key.fixedSize?) + (← value.fixedSize?))) * count)
  | .tuple items => fixedSizeOfItems items
  | .struct _ fields => fixedSizeOfFields fields
  | .enum _ size variants => do
    let payload ← commonSize? (fixedSizesOfVariants variants)
    checkedSize ((← size.byteWidth?) + payload)
  | .fixedSize _ size => some size
  | _ => none

/-- The number of bytes of items in a row. -/
def fixedSizeOfItems : List Codec → Option Nat
  | [] => some 0
  | item :: items => do checkedSize ((← item.fixedSize?) + (← fixedSizeOfItems items))

/-- The number of bytes of fields in a row. -/
def fixedSizeOfFields : List FieldCodec → Option Nat
  | [] => some 0
  | ⟨_, codec⟩ :: fields => do checkedSize ((← codec.fixedSize?) + (← fixedSizeOfFields fields))

/-- The number of bytes of a payload. -/
def Payload.fixedSize? : Payload → Option Nat
  | .empty => some 0
  | .tuple items => fixedSizeOfItems items
  | .struct fields => fixedSizeOfFields fields

/-- The numbers of bytes of the payloads of variants. -/
def fixedSizesOfVariants : List VariantCodec → List (Option Nat)
  | [] => []
  | ⟨_, _, payload⟩ :: variants => payload.fixedSize? :: fixedSizesOfVariants variants

end

mutual

/-- A number of bytes that no value exceeds. -/
def Codec.maxSize? : Codec → Option Nat
  | .number format | .boolean format => some format.maxWidth
  | .option item flag _ => do checkedSize (flag.maxWidth + (← item.maxSize?))
  | .tuple items => maxSizeOfItems items
  | .struct _ fields => maxSizeOfFields fields
  | .enum _ size variants => do
    let payload ← greatestSize? (maxSizesOfVariants variants)
    checkedSize (size.maxWidth + payload)
  | .list item (.fixed count) | .set item (.fixed count) => do
    checkedSize ((← item.maxSize?) * count)
  | .map key value (.fixed count) => do
    checkedSize ((← checkedSize ((← key.maxSize?) + (← value.maxSize?))) * count)
  | codec => codec.fixedSize?

/-- A number of bytes that no items in a row exceed. -/
def maxSizeOfItems : List Codec → Option Nat
  | [] => some 0
  | item :: items => do checkedSize ((← item.maxSize?) + (← maxSizeOfItems items))

/-- A number of bytes that no fields in a row exceed. -/
def maxSizeOfFields : List FieldCodec → Option Nat
  | [] => some 0
  | ⟨_, codec⟩ :: fields => do checkedSize ((← codec.maxSize?) + (← maxSizeOfFields fields))

/-- A number of bytes that no payload exceeds. -/
def Payload.maxSize? : Payload → Option Nat
  | .empty => some 0
  | .tuple items => maxSizeOfItems items
  | .struct fields => maxSizeOfFields fields

/-- Numbers of bytes that the payloads of variants do not exceed. -/
def maxSizesOfVariants : List VariantCodec → List (Option Nat)
  | [] => []
  | ⟨_, _, payload⟩ :: variants => payload.maxSize? :: maxSizesOfVariants variants

end

mutual

/-- Whether a part of a codec has no layout. References to other classes are not followed. -/
def Codec.containsUnknown : Codec → Bool
  | .unknown _ => true
  | .option item _ _ | .list item _ | .typedArray item _ | .set item _
  | .sizePrefixed item _ | .fixedSize item _ => item.containsUnknown
  | .map key value _ => key.containsUnknown || value.containsUnknown
  | .tuple items => itemsContainUnknown items
  | .struct _ fields => fieldsContainUnknown fields
  | .enum _ _ variants => variantsContainUnknown variants
  | _ => false

/-- Whether one of the items has a part without layout. -/
def itemsContainUnknown : List Codec → Bool
  | [] => false
  | item :: items => item.containsUnknown || itemsContainUnknown items

/-- Whether one of the fields has a part without layout. -/
def fieldsContainUnknown : List FieldCodec → Bool
  | [] => false
  | ⟨_, codec⟩ :: fields => codec.containsUnknown || fieldsContainUnknown fields

/-- Whether a payload has a part without layout. -/
def Payload.containsUnknown : Payload → Bool
  | .empty => false
  | .tuple items => itemsContainUnknown items
  | .struct fields => fieldsContainUnknown fields

/-- Whether one of the variants has a part without layout. -/
def variantsContainUnknown : List VariantCodec → Bool
  | [] => false
  | ⟨_, _, payload⟩ :: variants => payload.containsUnknown || variantsContainUnknown variants

end

end DartClient
