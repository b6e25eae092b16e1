import DartClient.Number.Layout

/-!
# JSON documents

A document keeps the members of an object in written order, repetitions included. A number is an
integer when it was written without fraction and exponent and fits in 64 bits, and a double
otherwise. What is written correctly but has no such value keeps its place in the document, where it
does no harm as long as nobody asks for it.

## Main definitions

* `Json.Number`: integers and doubles, with the text of each.
* `Json`: documents, and `Json.depth?`, their nesting.
-/

namespace DartClient

/-- A number of a JSON document. -/
inductive Json.Number where
  /-- An integer between the least signed and the greatest unsigned 64-bit number. -/
  | int (value : Int)
  /-- Any other number, rounded to double precision. -/
  | float (value : Number.Double)
  deriving DecidableEq, Repr

namespace Json.Number

/-- The text of a number. -/
def render : Json.Number → String
  | .int value => toString value
  | .float value => DartClient.Number.documentLayout.render value

/-- The value of a number that is a natural number written as an integer. -/
def toNat? : Json.Number → Option Nat
  | .int (.ofNat n) => some n
  | _ => none

end Json.Number

/-- A JSON document. -/
inductive Json where
  /-- The empty value. -/
  | null
  /-- A flag. -/
  | bool (value : Bool)
  /-- A number. -/
  | number (value : Json.Number)
  /-- A text. -/
  | string (value : String)
  /-- A list. -/
  | array (items : List Json)
  /-- Named members, in written order. -/
  | object (members : List (String × Json))
  /-- A value that is written correctly but cannot be held: a number too great for a double, a text
  or an object with a name in which surrogates are not paired, or what is nested too deep. -/
  | unreadable
  deriving Inhabited

namespace Json

mutual

/-- How many arrays and objects are nested in each other; nothing if a part cannot be held. -/
def depth? : Json → Option Nat
  | .array items => do return (← depthOfItems? items) + 1
  | .object members => do return (← depthOfMembers? members) + 1
  | .unreadable => none
  | _ => some 0

/-- The greatest depth among the items of an array. -/
def depthOfItems? : List Json → Option Nat
  | [] => some 0
  | item :: items => do return max (← item.depth?) (← depthOfItems? items)

/-- The greatest depth among the members of an object. -/
def depthOfMembers? : List (String × Json) → Option Nat
  | [] => some 0
  | (_, value) :: members => do return max (← value.depth?) (← depthOfMembers? members)

end

/-- The text of a string. -/
def toText? : Json → Option String
  | .string text => some text
  | _ => none

/-- The value of a flag. -/
def toBool? : Json → Option Bool
  | .bool value => some value
  | _ => none

/-- The number of a number. -/
def toNumber? : Json → Option Json.Number
  | .number value => some value
  | _ => none

/-- The value of a natural number written as an integer. -/
def toNat? (json : Json) : Option Nat := json.toNumber?.bind Json.Number.toNat?

/-- The items of an array, each read in the same way. -/
def toList? {α : Type} (read : Json → Option α) : Json → Option (List α)
  | .array items => items.mapM read
  | _ => none

/-- A list of texts. -/
def toTexts? : Json → Option (List String) := toList? toText?

end Json

end DartClient
