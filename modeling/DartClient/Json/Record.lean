import DartClient.Json.Basic

/-!
# Records and tagged values in documents

A record is an object with known names; members of other names are ignored, and a known name may
not be repeated. A record may also be written as the list of its members in declared order.

A tagged value is an object whose member `kind` tells which record the other members make up, or a
list that starts with the kind. Where it stands by itself, the kind is a name, and every part has to
be readable, used or not. As a part of another tagged value it may also have the place of its kind
among the kinds in question, counted from zero, for the name.

## Main definitions

* `Json.record?`: the known members of a record.
* `Record.required?`, `Record.withDefault?`, `Record.optional?`: reading one member.
* `Json.tagged?`: the kind and the rest of a tagged value.
* `Json.standalone?`: a tagged value that is no part of another one.
-/

namespace DartClient

/-- The members of a record, by name. -/
abbrev Record := List (String × Json)

namespace Json

/-- The members of a record that have one of the known names. -/
def record? (names : List String) : Json → Option Record
  | .object members =>
    let known := members.filter fun member => names.contains member.1
    if (known.map Prod.fst).Nodup then some known else none
  | .array items => if items.length ≤ names.length then some (names.zip items) else none
  | _ => none

/-- What stands for the kind of a tagged value, and the value without it. -/
def untag? : Json → Option (Json × Json)
  | .object members =>
    match members.filter fun member => member.1 == "kind" with
    | [(_, kind)] => some (kind, .object (members.filter fun member => member.1 != "kind"))
    | _ => none
  | .array (kind :: items) => some (kind, .array items)
  | _ => none

/-- The name of a kind, which is given by itself or by its place. Behind the last kind it is empty,
which no kind is called. -/
def kindName? (kinds : List String) : Json → Option String
  | .string name => some name
  | kind => kind.toNat?.map fun place => kinds.getD place ""

/-- The kind of a tagged value, which may be one of the given kinds, and the value without it. -/
def tagged? (kinds : List String) (json : Json) : Option (String × Json) := do
  let (kind, rest) ← json.untag?
  return (← kindName? kinds kind, rest)

/-- A tagged value that is no part of another one: its kind has a name, and each of its parts is
readable. -/
def standalone? (json : Json) : Option Json := do
  let _ ← json.depth?
  let (kind, _) ← json.untag?
  let _ ← kind.toText?
  return json

/-- Whether the rest of a tagged value may stand for a value without members. -/
def isUnit : Json → Bool
  | .array items => items.isEmpty
  | _ => true

/-- The name of a constant: a text, or an object with an empty member of that name. -/
def constantName? : Json → Option String
  | .string name => some name
  | .object [(name, .null)] => some name
  | _ => none

/-- The name of a constant inside a tagged value, where an object without members is empty too. -/
def partName? : Json → Option String
  | .object [(name, .object [])] => some name
  | json => json.constantName?

end Json

namespace Record

variable {α : Type}

/-- The value of a member that has to be there. -/
def required? (record : Record) (name : String) (read : Json → Option α) : Option α :=
  (record.lookup name).bind read

/-- The value of a member, or the default if the member is missing. -/
def withDefault? (record : Record) (name : String) (read : Json → Option α) (default : α) :
    Option α :=
  match record.lookup name with
  | none => some default
  | some value => read value

/-- The value of a member that may be missing or empty. -/
def optional? (record : Record) (name : String) (read : Json → Option α) : Option (Option α) :=
  match record.lookup name with
  | none => some none
  | some .null => some none
  | some value => (read value).map some

end Record

end DartClient
