import DartClient.Client.Package

/-!
# The command line

What a run is asked to do: the descriptions to read, the folder below which the packages are
written, and changes of the settings.

## Main definitions

* `Arguments`: what a run is asked to do.
* `Arguments.parse`: reading the words of the command line.
* `Arguments.settings`: the settings of a run.
-/

namespace DartClient

/-- What a run is asked to do. -/
structure Arguments where
  /-- The files of descriptions. -/
  descriptions : List String
  /-- A folder with further descriptions. -/
  descriptionFolder : Option String
  /-- The folder below which the packages are written. -/
  output : Option String
  /-- The file of options. -/
  options : Option String
  /-- The folder of the library in each package. -/
  libraryName : Option String
  /-- Whether the code is left as it is. -/
  keepsFormat : Bool
  /-- Whether the parts of a client are made one after another. -/
  isSequential : Bool

/-- Why the words of a command line are refused. -/
inductive ArgumentFault where
  /-- A word has no meaning. -/
  | unknown (word : String)
  /-- A word lacks its value. -/
  | missingValue (word : String)
  /-- There is no folder to write to. -/
  | missingOutput
  deriving DecidableEq, Repr

/-- The wording of a fault. -/
def ArgumentFault.message : ArgumentFault → String
  | unknown word => "unexpected argument '" ++ word ++ "'"
  | missingValue word => "a value is required for '" ++ word ++ "'"
  | missingOutput => "the argument '--output' is required"

namespace Arguments

/-- A run that is asked for nothing. -/
def empty : Arguments := ⟨[], none, none, none, none, false, false⟩

/-- The arguments with a value for a word that takes one. -/
def withValue (arguments : Arguments) (word value : String) : Option Arguments :=
  match word with
  | "--idl" => some { arguments with descriptions := arguments.descriptions ++ [value] }
  | "--idl-dir" => some { arguments with descriptionFolder := some value }
  | "--output" => some { arguments with output := some value }
  | "--config" => some { arguments with options := some value }
  | "--library-name" => some { arguments with libraryName := some value }
  | _ => none

/-- The arguments with a word that takes no value. -/
def withFlag (arguments : Arguments) (word : String) : Option Arguments :=
  match word with
  | "--no-format" => some { arguments with keepsFormat := true }
  | "--sequential" => some { arguments with isSequential := true }
  | _ => none

/-- The arguments with a word that holds its value behind an equals sign. -/
def withAssignment (arguments : Arguments) (word : String) : Option Arguments :=
  let (name, rest) := word.toList.span (· != '=')
  match rest with
  | [] => none
  | _ :: value => arguments.withValue (String.ofList name) (String.ofList value)

/-- The arguments with all words of a command line. -/
def withWords (arguments : Arguments) : List String → Except ArgumentFault Arguments
  | [] => .ok arguments
  | [word] =>
    match arguments.withFlag word <|> arguments.withAssignment word with
    | some arguments => .ok arguments
    | none =>
      .error (if (arguments.withValue word "").isSome then .missingValue word else .unknown word)
  | word :: value :: words =>
    match arguments.withFlag word <|> arguments.withAssignment word with
    | some arguments => arguments.withWords (value :: words)
    | none =>
      match arguments.withValue word value with
      | some arguments => arguments.withWords words
      | none => .error (.unknown word)

/-- What the words of a command line ask for. -/
def parse (words : List String) : Except ArgumentFault Arguments := do
  let arguments ← empty.withWords words
  if arguments.output.isNone then .error .missingOutput else .ok arguments

/-- The settings of a run, given those of its file of options. -/
def settings (arguments : Arguments) (settings : Settings) : Settings :=
  { settings with
    libraryName := arguments.libraryName.getD settings.libraryName
    formatsCode := settings.formatsCode && !arguments.keepsFormat
    isParallel := settings.isParallel && !arguments.isSequential }

end Arguments

/-! ## Paths -/

/-- The name of a file without the folders and the extension. -/
def pathStem (path : String) : String :=
  let name := ((pathNames path).getLast?.getD "").toList
  match (name.reverse.span (· != '.')).2 with
  | [] | ['.'] => String.ofList name
  | _ :: stem => String.ofList stem.reverse

/-- Whether a file name has the extension of documents. -/
def isDocumentName (name : String) : Bool :=
  let (extension, rest) := name.toList.reverse.span (· != '.')
  rest.length > 1 && extension.reverse.map Char.toLower == "json".toList

/-- Paths in ascending order, each once. -/
def sortedPaths (paths : List String) : List String := (Std.ExtTreeSet.ofList paths).toList

/-- What is said where there is no description to read. -/
def noDescriptions : String :=
  "unsupported value `args` at `cli arguments`: provide at least one --idl or --idl-dir"

end DartClient
