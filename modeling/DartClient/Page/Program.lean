import DartClient.Page.Data
import DartClient.Seed.Resolve

/-!
# Pages of programs

A program has a page with its address, name and version, one with its errors if it has any, and
one for each derived address with the function that derives it.

## Main definitions

* `programPage`, `errorsPage?`: the pages of constants.
* `Resolver.pdaPage`: the page of a derived address.
-/

namespace DartClient

open Idl (Program ErrorCode Pda PdaSeed)

/-- The version of a program that does not tell it. -/
def defaultProgramVersion : String := "1.0.0"

/-- The version of a program. -/
def Idl.Program.shownVersion (program : Program) : String :=
  if program.version.isEmpty then defaultProgramVersion else program.version

/-- The class with the constants of a program. -/
def programLines (program : Program) : List String :=
  ["/// Program constants and utilities for " ++ program.name,
   opening ("class " ++ programClass program.name),
   "  /// The program ID",
   "  static const String programId = '" ++ program.publicKey ++ "';",
   "",
   "  /// Get the program's Ed25519HDPublicKey",
   opening "  static Ed25519HDPublicKey get publicKey",
   "    return Ed25519HDPublicKey.fromBase58(programId);",
   "  " ++ closing,
   "",
   "  /// Program name",
   "  static const String name = '" ++ escapeText program.name ++ "';",
   "",
   "  /// Program version",
   "  static const String version = '" ++ escapeText program.shownVersion ++ "';",
   closing]

/-- The page with the constants of a program, whose address has to be valid. -/
def programPage (program : Program) : Except ClientError Page := do
  let _ ← Idl.readAddress program.publicKey program.name
  return .ofSource (generatedModule "programs" (fileStem program.name))
    (ImportMap.empty.add solanaModule [addressSymbol]) [programClass program.name]
    { exports := none
      part := none
      items := [.code (programLines program)] }

/-! ## Errors -/

/-- The constant of an error, with its documentation on one line. -/
def errorConstantLines (error : ErrorCode) : List String :=
  (if error.docs.isEmpty then [] else ["  /// " ++ " ".intercalate error.docs]) ++
  ["  static const int " ++ errorConstant error.name ++ " = " ++ toString error.code ++ ";"]

/-- The entry of an error in the table of messages. -/
def errorMessageLine (error : ErrorCode) : String :=
  "    " ++ errorConstant error.name ++ ": '" ++ escapeText error.message ++ "',"

/-- The errors in ascending order of their numbers; those of one number stay in order. -/
def sortedErrors (errors : List ErrorCode) : List ErrorCode :=
  errors.mergeSort fun a b => a.code ≤ b.code

/-- The class with the errors of a program. -/
def errorsLines (program : Program) : List String :=
  let errors := sortedErrors program.errors
  ["/// Program errors for " ++ program.name,
   opening ("class " ++ errorsClass program.name)] ++
  errors.flatMap errorConstantLines ++
  ["",
   opening "  static const Map<int, String> _errorMessages ="] ++
  errors.map errorMessageLine ++
  ["  \x7d;",
   "",
   "  /// Get error message for a given error code",
   opening "  static String getMessage(int code)",
   "    return _errorMessages[code] ?? 'Unknown error code: $code';",
   "  " ++ closing,
   "",
   "  /// Check if the given code is a valid error code for this program",
   opening "  static bool isValidErrorCode(int code)",
   "    return _errorMessages.containsKey(code);",
   "  " ++ closing,
   "",
   "  /// Get all error codes",
   opening "  static List<int> getAllErrorCodes()",
   "    return _errorMessages.keys.toList();",
   "  " ++ closing,
   closing]

/-- The page with the errors of a program, if it has any. -/
def errorsPage? (program : Program) : Option Page :=
  if program.errors.isEmpty then none
  else some <| .ofSource (generatedModule "errors" (fileStem program.name)) .empty
    [errorsClass program.name]
    { exports := none
      part := none
      items := [.code (errorsLines program)] }

/-! ## Derived addresses -/

/-- The manifests of the types of the variable seeds, in order. -/
def Resolver.seedManifests (resolver : Resolver) : List PdaSeed → Resolved (List Manifest)
  | [] => .ok []
  | .constant _ _ :: seeds => resolver.seedManifests seeds
  | .variable name type _ :: seeds => do
    return (← resolver.resolve type (.root (className name) .type)) ::
      (← resolver.seedManifests seeds)

/-- The program that derives an address, and what naming it needs to import. -/
def derivingProgram (program : Program) (pda : Pda) :
    Except ClientError (AddressTerm × ImportMap) :=
  match pda.programId with
  | some text => do
    let _ ← Idl.readAddress text pda.name
    return (.literal text, .empty)
  | none =>
    .ok (.programOf (programClass program.name),
      ImportMap.empty.add (generatedModule "programs" (fileStem program.name))
        [programClass program.name])

/-- The function that derives an address of a program, the diagnostics of the types of its seeds,
and what it needs to import. -/
def Resolver.derivationHelper (resolver : Resolver) (program : Program) (pda : Pda) :
    Resolved (DerivationHelper × List Diagnostic × ImportMap) := do
  let derivation ← resolver.resolveSeeds pda []
  derivation.checkLimits
  let manifests ← resolver.seedManifests pda.seeds
  let (term, programImports) ← derivingProgram program pda
  let imports := derivation.imports.add solanaModule [addressSymbol]
  let imports := manifests.foldl (fun imports manifest => imports.merge manifest.imports) imports
  return (⟨pdaFunction pda.name, pda.docs, term, derivation⟩,
    manifests.flatMap (·.diagnostics), imports.merge programImports)

/-- The page of a derived address. -/
def Resolver.pdaPage (resolver : Resolver) (program : Program) (pda : Pda) :
    Resolved Rendering := do
  let (helper, diagnostics, imports) ← resolver.derivationHelper program pda
  let page := Page.ofSource (generatedModule "pdas" (fileStem pda.name)) imports [helper.name]
    { exports := none
      part := none
      items := [.helper helper] }
  return ⟨[page], diagnostics⟩

end DartClient
