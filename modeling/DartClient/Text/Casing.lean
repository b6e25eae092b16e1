import DartClient.Text.AlphanumericTable
import DartClient.Text.CaseTable

/-!
# Word casing

A name is cut into words, and the words are joined again in one of four spellings. Characters
that are neither letters nor digits separate words and disappear. Inside a run of letters and
digits a word ends where an upper case letter follows a lower case one, and before the last of
several upper case letters if a lower case letter follows it.

## Main definitions

* `words`: the words of a name.
* `upperCamel`, `lowerCamel`, `snake`, `shoutySnake`: the four spellings.
-/

namespace DartClient.Text

/-- Whether a character may stand inside a word. -/
def isAlphanumeric (c : Char) : Bool := CodeRun.anyContains alphanumericRuns c.toNat

/-- Whether a character is an upper case letter. -/
def isUppercase (c : Char) : Bool := CodeRun.anyContains uppercaseRuns c.toNat

/-- Whether a character is a lower case letter. -/
def isLowercase (c : Char) : Bool := CodeRun.anyContains lowercaseRuns c.toNat

/-- The image of a character: its expansion if it has one, else the shift of its run. -/
def changeCase (expansions : List (Nat × List Nat)) (runs : List CaseRun) (c : Char) : List Char :=
  match expansions.lookup c.toNat with
  | some codes => codes.map Char.ofNat
  | none => [(CaseRun.map? runs c.toNat).elim c Char.ofNat]

/-- The upper case form of a character. -/
def toUpper : Char → List Char := changeCase toUpperExpansions toUpperRuns

/-- The lower case form of a character that is not the last of its word. -/
def toLower : Char → List Char := changeCase toLowerExpansions toLowerRuns

/-- A word in lower case; a capital sigma at its end takes the final form. -/
def lowercase : List Char → List Char
  | [] => []
  | ['Σ'] => ['ς']
  | c :: rest => toLower c ++ lowercase rest

/-- A word in upper case. -/
def uppercase (word : List Char) : List Char := word.flatMap toUpper

/-- A word with its first letter in upper case and the others in lower case. -/
def capitalize : List Char → List Char
  | [] => []
  | c :: rest => toUpper c ++ lowercase rest

/-! ## Words -/

/-- What the letters of the current word so far say about the next break. -/
inductive CaseMode where
  /-- No cased letter yet. -/
  | boundary
  /-- The last cased letter is lower case. -/
  | lower
  /-- The last cased letter is upper case. -/
  | upper
  deriving DecidableEq, Repr

/-- The mode after one more character of the same word. -/
def CaseMode.next (mode : CaseMode) (c : Char) : CaseMode :=
  if isLowercase c then .lower else if isUppercase c then .upper else mode

/-- The words of a run of letters and digits; `word` is the word under way, last letter first. -/
def splitRun (mode : CaseMode) (word : List Char) : List Char → List (List Char)
  | [] => if word.isEmpty then [] else [word.reverse]
  | [c] => [(c :: word).reverse]
  | c :: next :: rest =>
    if mode.next c = .lower && isUppercase next then
      (c :: word).reverse :: splitRun .boundary [] (next :: rest)
    else if mode = .upper && isUppercase c && isLowercase next then
      word.reverse :: splitRun .boundary [c] (next :: rest)
    else splitRun (mode.next c) (c :: word) (next :: rest)

/-- The maximal runs of letters and digits; `run` is the run under way, last character first. -/
def alphanumericRunsOf (run : List Char) : List Char → List (List Char)
  | [] => [run.reverse]
  | c :: rest =>
    if isAlphanumeric c then alphanumericRunsOf (c :: run) rest
    else run.reverse :: alphanumericRunsOf [] rest

/-- The words of a name, in order. -/
def words (name : String) : List (List Char) :=
  (alphanumericRunsOf [] name.toList).flatMap (splitRun .boundary [])

/-! ## Spellings -/

/-- Every word capitalized, without separators. -/
def upperCamel (name : String) : String :=
  String.ofList ((words name).flatMap capitalize)

/-- The first word in lower case and the others capitalized, without separators. -/
def lowerCamel (name : String) : String :=
  match words name with
  | [] => ""
  | word :: rest => String.ofList (lowercase word ++ rest.flatMap capitalize)

/-- Words in lower case, separated by underscores. -/
def snake (name : String) : String :=
  String.ofList (['_'].intercalate ((words name).map lowercase))

/-- Words in upper case, separated by underscores. -/
def shoutySnake (name : String) : String :=
  String.ofList (['_'].intercalate ((words name).map uppercase))

end DartClient.Text
