import DartClient.Text.Quoted

/-!
# Texts of structured values

How a value made of named parts is shown inside a message, on one line.

## Main definitions

* `recordText`, `callText`, `listText`, `optionText`: records, wrapped values, lists and options.
-/

namespace DartClient.Text

/-- Items between square brackets, separated by commas. -/
def listText (items : List String) : String := "[" ++ ", ".intercalate items ++ "]"

/-- A list of quoted texts. -/
def quotedListText (texts : List String) : String := listText (texts.map quoteText)

/-- A name with the value that it wraps. -/
def callText (name argument : String) : String := name ++ "(" ++ argument ++ ")"

/-- A value that may be absent. -/
def optionText : Option String → String
  | none => "None"
  | some value => callText "Some" value

/-- A name with named parts. -/
def recordText (name : String) (parts : List (String × String)) : String :=
  name ++ " \x7b " ++ ", ".intercalate (parts.map fun (part, value) => part ++ ": " ++ value) ++
    " \x7d"

end DartClient.Text
