/-!
# Lines

Texts made of lines, each of which has its end.

## Main definitions

* `unlines`: the text of some lines.
* `indented`: lines moved to the right.
-/

namespace DartClient.Text

/-- The text of some lines, each with its end. -/
def unlines (lines : List String) : String := String.join (lines.map fun line => line ++ "\n")

/-- Lines behind an indentation. -/
def indented (indent : String) (lines : List String) : List String :=
  lines.map fun line => indent ++ line

end DartClient.Text
