import DartClient.Json.Basic

/-!
# Reading JSON text

The grammar is the strict one: no comments, no trailing commas, no leading zeros and no control
characters in strings. What it admits but a document cannot hold is kept as unreadable: a number too
great for a double, a string or a name in which surrogates are not paired, and an array or object
with 127 others around it.

A number keeps as many leading digits as fit in 64 bits; further digits only move the exponent, or
are dropped behind the point. The kept digits become a double and are scaled by a power of ten,
with one rounding for each step.

## Main definitions

* `Json.Number.ofDigits?`: the number written by its digits.
* `Json.parse?`: the document written by a text.
-/

namespace DartClient.Json

open DartClient.Number (Double binary64)

/-! ## Numbers -/

/-- The greatest number that 64 bits hold. -/
def maxSignificand : Nat := Nat.pow 2 64 - 1

/-- The leading digits that fit in 64 bits, and the number of digits behind them. -/
def wholeDigits (digits : List Nat) : Nat × Nat :=
  digits.foldl (fun (significand, dropped) d =>
    if dropped = 0 && significand * 10 + d ≤ maxSignificand then (significand * 10 + d, 0)
    else (significand, dropped + 1)) (0, 0)

/-- A significand with as many decimal places as fit in 64 bits, and their number. -/
def placeDigits (significand : Nat) : List Nat → Nat × Nat
  | [] => (significand, 0)
  | d :: digits =>
    if significand * 10 + d ≤ maxSignificand then
      let (result, places) := placeDigits (significand * 10 + d) digits
      (result, places + 1)
    else (significand, 0)

/-- The double nearest to a power of ten. -/
def tenPowerDouble (n : Nat) : Double :=
  Double.ofMagnitude false (binary64.ofRatio (Nat.pow 10 n) 1)

/-- A positive double times a power of ten, or nothing if it is too great. Very small powers are
taken in steps, each of them rounded. -/
def scaleByTen (x : Double) (exponent : Int) : Option Double :=
  if exponent.natAbs ≤ 308 then
    if 0 ≤ exponent then
      let product := x.mul (tenPowerDouble exponent.toNat)
      if product.isInfinite then none else some product
    else some (x.div (tenPowerDouble exponent.natAbs))
  else if x.isZero then some x
  else if 0 ≤ exponent then none
  else scaleByTen (x.div (tenPowerDouble 308)) (exponent + 308)
  termination_by exponent.natAbs
  decreasing_by omega

/-- A number as its parts are written: the digits before the point, the digits behind it if there
is a point, and the exponent if there is one. -/
structure NumberText where
  /-- Whether a minus sign stands in front. -/
  negative : Bool
  /-- The digits before the point. -/
  whole : List Nat
  /-- The digits behind the point. -/
  places : List Nat
  /-- The exponent. -/
  exponent : Option Int

/-- The number that a text stands for. Negative zero is a double. -/
def NumberText.value? (text : NumberText) : Option Json.Number :=
  let (significand, dropped) := wholeDigits text.whole
  let integral := dropped = 0 ∧ text.places = [] ∧ text.exponent = none
  if integral ∧ ¬text.negative then some (.int significand)
  else if integral ∧ 0 < significand ∧ significand ≤ Nat.pow 2 63 then some (.int (-significand))
  else
    let (significand, places) := placeDigits significand text.places
    let exponent := (dropped : Int) - places + text.exponent.getD 0
    (scaleByTen (Double.ofNat significand) exponent).map fun x =>
      .float (if text.negative then x.neg else x)

/-- The value of a decimal digit. -/
def digitValue? (c : Char) : Option Nat :=
  if '0' ≤ c ∧ c ≤ '9' then some (c.toNat - '0'.toNat) else none

/-- The leading digits of a text and what follows them. -/
def scanDigits : List Char → List Nat × List Char
  | [] => ([], [])
  | c :: rest =>
    match digitValue? c with
    | some d =>
      let (digits, rest) := scanDigits rest
      (d :: digits, rest)
    | none => ([], c :: rest)

/-- The digits before the point: a single zero, or digits that do not start with one. -/
def scanWhole (text : List Char) : Option (List Nat × List Char) :=
  match scanDigits text with
  | ([], _) => none
  | (0 :: _ :: _, _) => none
  | scanned => some scanned

/-- The digits behind a point, if there is one. -/
def scanPlaces : List Char → Option (List Nat × List Char)
  | '.' :: rest =>
    match scanDigits rest with
    | ([], _) => none
    | scanned => some scanned
  | rest => some ([], rest)

/-- The sign of an exponent. -/
def scanSign : List Char → Int × List Char
  | '-' :: rest => (-1, rest)
  | '+' :: rest => (1, rest)
  | rest => (1, rest)

/-- The exponent, if there is one. -/
def scanExponent (text : List Char) : Option (Option Int × List Char) :=
  let scan (rest : List Char) :=
    let (sign, rest) := scanSign rest
    match scanDigits rest with
    | ([], _) => none
    | (digits, rest) => some (some (sign * digits.foldl (fun (n : Nat) d => n * 10 + d) 0), rest)
  match text with
  | 'e' :: rest => scan rest
  | 'E' :: rest => scan rest
  | rest => some (none, rest)

/-- A number and what follows it. -/
def scanNumber (text : List Char) : Option (NumberText × List Char) := do
  let (negative, rest) :=
    match text with
    | '-' :: rest => (true, rest)
    | rest => (false, rest)
  let (whole, rest) ← scanWhole rest
  let (places, rest) ← scanPlaces rest
  let (exponent, rest) ← scanExponent rest
  return (⟨negative, whole, places, exponent⟩, rest)

/-! ## Strings -/

/-- The value of a hexadecimal digit. -/
def hexValue? (c : Char) : Option Nat :=
  if '0' ≤ c ∧ c ≤ '9' then some (c.toNat - '0'.toNat)
  else if 'a' ≤ c ∧ c ≤ 'f' then some (c.toNat - 'a'.toNat + 10)
  else if 'A' ≤ c ∧ c ≤ 'F' then some (c.toNat - 'A'.toNat + 10)
  else none

/-- The unit written by four hexadecimal digits. -/
def scanUnit : List Char → Option (Nat × List Char)
  | a :: b :: c :: d :: rest => do
    return ((((← hexValue? a) * 16 + (← hexValue? b)) * 16 + (← hexValue? c)) * 16 +
      (← hexValue? d), rest)
  | _ => none

/-- The character of a backslash escape other than a code point. -/
def escapedChar? (c : Char) : Option Char :=
  match c with
  | '"' => some '"'
  | '\\' => some '\\'
  | '/' => some '/'
  | 'b' => some '\x08'
  | 'f' => some '\x0c'
  | 'n' => some '\n'
  | 'r' => some '\r'
  | 't' => some '\t'
  | _ => none

/-- A low surrogate written as an escape, and what follows it. -/
def scanLowSurrogate : List Char → Option (Nat × List Char)
  | '\\' :: 'u' :: rest =>
    (scanUnit rest).filter fun (unit, _) => 0xDC00 ≤ unit && unit ≤ 0xDFFF
  | _ => none

/-- The character of a code point escape, and what follows it. A high surrogate takes the low one
behind it; other surrogates stand for no character. -/
def scanCodePoint (text : List Char) : Option (Option Char × List Char) := do
  let (unit, rest) ← scanUnit text
  if unit < 0xD800 ∨ 0xDFFF < unit then return (some (Char.ofNat unit), rest)
  else if 0xDC00 ≤ unit then return (none, rest)
  else
    match scanLowSurrogate rest with
    | some (low, rest) =>
      return (some (Char.ofNat (0x10000 + (unit - 0xD800) * 0x400 + (low - 0xDC00))), rest)
    | none => return (none, rest)

/-- The characters up to the closing quote, if all of them stand for one, and what follows it. The
bound counts the characters that may still be read. -/
def scanString : Nat → List Char → Option (Option (List Char) × List Char)
  | 0, _ => none
  | _, [] => none
  | _, '"' :: rest => some (some [], rest)
  | bound + 1, '\\' :: 'u' :: rest => do
    let (c?, rest) ← scanCodePoint rest
    let (chars?, rest) ← scanString bound rest
    return (c?.bind fun c => chars?.map (c :: ·), rest)
  | bound + 1, '\\' :: c :: rest => do
    let c ← escapedChar? c
    let (chars?, rest) ← scanString bound rest
    return (chars?.map (c :: ·), rest)
  | bound + 1, c :: rest =>
    if c = '\\' ∨ c < ' ' then none
    else do
      let (chars?, rest) ← scanString bound rest
      return (chars?.map (c :: ·), rest)

/-! ## Documents -/

/-- A text without the blanks at its start. -/
def skipBlanks : List Char → List Char
  | ' ' :: rest => skipBlanks rest
  | '\n' :: rest => skipBlanks rest
  | '\t' :: rest => skipBlanks rest
  | '\r' :: rest => skipBlanks rest
  | rest => rest

/-- What follows a given word at the start of a text. -/
def afterWord (word : List Char) (text : List Char) : Option (List Char) :=
  if word.isPrefixOf text then some (text.drop word.length) else none

/-- The items behind the first one, separated by commas, up to the closing bracket. -/
def scanItems {α : Type} (item : List Char → Option (α × List Char)) (close : Char) :
    Nat → List Char → Option (List α × List Char)
  | 0, _ => none
  | bound + 1, text =>
    match skipBlanks text with
    | ',' :: rest => do
      let (value, rest) ← item (skipBlanks rest)
      let (values, rest) ← scanItems item close bound rest
      return (value :: values, rest)
    | c :: rest => if c = close then some ([], rest) else none
    | [] => none

/-- The items of a list whose opening bracket has been read. -/
def scanSequence {α : Type} (bound : Nat) (item : List Char → Option (α × List Char))
    (close : Char) (text : List Char) : Option (List α × List Char) := do
  match skipBlanks text with
  | [] => none
  | c :: rest =>
    if c = close then return ([], rest)
    let (value, rest) ← item (c :: rest)
    let (values, rest) ← scanItems item close bound rest
    return (value :: values, rest)

/-- A member of an object: a quoted name, a colon and a value. -/
def scanMember {α : Type} (bound : Nat) (item : List Char → Option (α × List Char)) :
    List Char → Option ((Option String × α) × List Char)
  | '"' :: rest => do
    let (name, rest) ← scanString bound rest
    match skipBlanks rest with
    | ':' :: rest =>
      let (value, rest) ← item (skipBlanks rest)
      return ((name.map String.ofList, value), rest)
    | _ => none
  | _ => none

/-- An object, if each of its members has a name. -/
def ofMembers (members : List (Option String × Json)) : Json :=
  match members.mapM fun member => member.1.map (·, member.2) with
  | some members => .object members
  | none => .unreadable

/-- A document and what follows it; `depth` more arrays and objects nested in each other can be
held. The bound is the length of the whole text, which no list, string or nesting exceeds. -/
def scanDocument (bound : Nat) : Nat → Nat → List Char → Option (Json × List Char)
  | levels, depth, text =>
    match text with
    | '"' :: rest => do
      let (chars?, rest) ← scanString bound rest
      return (chars?.elim .unreadable fun chars => .string (String.ofList chars), rest)
    | '[' :: rest =>
      match levels with
      | 0 => none
      | levels + 1 => do
        let item := scanDocument bound levels (depth - 1)
        let (items, rest) ← scanSequence bound item ']' rest
        return (if depth = 0 then .unreadable else .array items, rest)
    | '{' :: rest =>
      match levels with
      | 0 => none
      | levels + 1 => do
        let member := scanMember bound (scanDocument bound levels (depth - 1))
        let (members, rest) ← scanSequence bound member '}' rest
        return (if depth = 0 then .unreadable else ofMembers members, rest)
    | 'n' :: rest => do return (.null, ← afterWord ['u', 'l', 'l'] rest)
    | 't' :: rest => do return (.bool true, ← afterWord ['r', 'u', 'e'] rest)
    | 'f' :: rest => do return (.bool false, ← afterWord ['a', 'l', 's', 'e'] rest)
    | text => do
      let (written, rest) ← scanNumber text
      return (written.value?.elim .unreadable .number, rest)

/-- How many arrays and objects nested in each other a document can hold. -/
def maxDepth : Nat := 127

/-- The document written by a text. -/
def parse? (text : String) : Option Json := do
  let chars := text.toList
  let bound := chars.length + 1
  let (json, rest) ← scanDocument bound bound maxDepth (skipBlanks chars)
  if (skipBlanks rest).isEmpty then return json else none

end DartClient.Json
