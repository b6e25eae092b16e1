import DartClient.Text.Casing

/-!
# Names in generated code

How the names of a description are spelled as Dart identifiers and file names. A name that is to
stand as a variable or member is put in lower camel case and gets an underscore behind it if that
is a reserved word. Classes and functions are never reserved words.

These are the only conventions: they are fixed, and nothing of what may be set for a client changes
them.

## Main definitions

* `memberName`: fields, parameters and factories.
* `className`: accounts, defined types and variants.
* `instructionDataClass`, `programClass` and so on: names with a fixed part.
* `fileStem`: file names without extension.
-/

namespace DartClient

/-- The words that cannot be names of variables and members. -/
def reservedWords : List String :=
  ["abstract", "as", "assert", "async", "await", "break", "case", "catch", "class", "const",
   "continue", "default", "do", "dynamic", "else", "enum", "export", "extends", "external",
   "factory", "false", "final", "finally", "for", "get", "if", "implements", "import", "in",
   "is", "library", "new", "null", "operator", "part", "rethrow", "return", "set", "static",
   "super", "switch", "this", "throw", "true", "try", "typedef", "var", "void", "while", "with",
   "yield"]

/-- A word with an underscore behind it if it is reserved. -/
def avoidReserved (word : String) : String :=
  if reservedWords.contains word then word ++ "_" else word

/-- A variable or member: a field of an account or type, a parameter, the factory of a variant. -/
def memberName (name : String) : String := avoidReserved (Text.lowerCamel name)

/-- The class of an account, a defined type or a variant. -/
def className (name : String) : String := Text.upperCamel name

/-- The class of the arguments of an instruction. -/
def instructionDataClass (name : String) : String := Text.upperCamel name ++ "InstructionData"

/-- The function that builds an instruction. -/
def instructionFunction (name : String) : String := Text.lowerCamel name ++ "Instruction"

/-- The function that derives an address. -/
def pdaFunction (name : String) : String := "derive" ++ Text.upperCamel name ++ "Pda"

/-- The constant of an error. -/
def errorConstant (name : String) : String := Text.shoutySnake name

/-- The class of the errors of a program. -/
def errorsClass (name : String) : String := Text.upperCamel name ++ "Errors"

/-- The class of a program. -/
def programClass (name : String) : String := Text.upperCamel name ++ "Program"

/-- The name of a file, without directory and extension. -/
def fileStem (name : String) : String := Text.snake name

end DartClient
