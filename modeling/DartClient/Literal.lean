import DartClient.Text.Lines
import DartClient.Text.Record

/-!
# Literals of generated code

Texts and byte lists as they stand in generated Dart code, and documentation comments.

## Main definitions

* `escapeText`: the body of a text between single quotes.
* `byteListItems`, `byteListLiteral`: bytes as a list.
* `docLines`, `docComment`: documentation lines, and their text.
-/

namespace DartClient

/-- A character in a text between single quotes. -/
def escapeDartChar (c : Char) : List Char :=
  if c = '\\' then ['\\', '\\']
  else if c = '\'' then ['\\', '\'']
  else if c = '$' then ['\\', '$']
  else if c = '\n' then ['\\', 'n']
  else [c]

/-- The body of a text between single quotes. -/
def escapeText (text : String) : String := String.ofList (text.toList.flatMap escapeDartChar)

/-- Bytes as the items of a list. -/
def byteListItems (bytes : List UInt8) : String :=
  Text.listText (bytes.map fun b => toString b.toNat)

/-- Bytes as a typed list. -/
def byteListLiteral (bytes : List UInt8) : String :=
  "Uint8List.fromList(" ++ byteListItems bytes ++ ")"

/-- Documentation lines at an indentation. -/
def docLines (docs : List String) (indent : String) : List String :=
  docs.map fun doc => indent ++ "/// " ++ doc

/-- The text of documentation lines at an indentation. -/
def docComment (docs : List String) (indent : String) : String :=
  Text.unlines (docLines docs indent)

end DartClient
