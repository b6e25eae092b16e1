import DartClient.Imports
import DartClient.Json.Record

/-!
# Settings

What may be set when a client is generated. Options are read from a document and laid over the
settings in force: tables are extended, all else is replaced where an option is given.

How names are spelled is not among the settings, and no option says anything about it: all names are
those of the module on names. A client whose names are made in another way is not described here.

## Main definitions

* `Settings`: the settings, with `Settings.default`.
* `Options`, `Options.ofJson?`: what a document changes.
* `Settings.withOptions`: the settings after a change.
-/

namespace DartClient

/-- What is set when a client is generated. The spelling of names cannot be set: it is always that
of `className`, `memberName`, `fileStem` and the like. -/
structure Settings where
  /-- The folder of the library, and its name. -/
  libraryName : String
  /-- The name of the package; the name of the program if it is empty. -/
  packageName : String
  /-- The version of the package. -/
  packageVersion : String
  /-- The description of the package. -/
  packageDescription : String
  /-- The modules that aliases stand for. -/
  aliases : Aliases
  /-- The addresses of accounts with well-known names. -/
  builtinPrograms : Std.ExtTreeMap String String
  /-- Whether the folder of the library is cleared before it is written. -/
  clearsLibrary : Bool
  /-- Whether the code is formatted when it has been written. -/
  formatsCode : Bool
  /-- Whether the parts of a client may be made at the same time, which changes nothing in them. -/
  isParallel : Bool

/-- What a document changes in the settings. -/
structure Options where
  /-- The folder of the library. -/
  libraryName : Option String
  /-- The name of the package. -/
  packageName : Option String
  /-- The version of the package. -/
  packageVersion : Option String
  /-- The description of the package. -/
  packageDescription : Option String
  /-- Further aliases, in written order. -/
  aliases : List (String × String)
  /-- Further accounts with well-known names, in written order. -/
  builtinPrograms : List (String × String)
  /-- Whether the folder of the library is cleared. -/
  clearsLibrary : Option Bool
  /-- Whether the code is formatted. -/
  formatsCode : Option Bool
  /-- Whether the parts of a client may be made at the same time. -/
  isParallel : Option Bool

namespace Settings

/-- The modules that the aliases of generated imports stand for. -/
def defaultAliases : Aliases := .ofList
  [("borsh", "package:borsh_annotation_extended/borsh_annotation_extended.dart"),
   ("dartConvert", "dart:convert"),
   ("dartTypedData", "dart:typed_data"),
   ("solana", "package:solana/solana.dart"),
   ("solanaEncoder", "package:solana/encoder.dart")]

/-- The addresses of accounts that every chain has. -/
def defaultBuiltinPrograms : Std.ExtTreeMap String String := .ofList
  [("associatedTokenProgram", "ATokenGPvbdGVxr1b2hvZbsiqW5xWH25efTNsLJA8knL"),
   ("clockSysvar", "SysvarC1ock11111111111111111111111111111111"),
   ("computeBudgetProgram", "ComputeBudget111111111111111111111111111111"),
   ("instructionsSysvar", "Sysvar1nstructions1111111111111111111111111"),
   ("memoProgram", "MemoSq4gqABAXKb96qnH8TysNcWxMyWCqXgDLGmfcHr"),
   ("rentSysvar", "SysvarRent111111111111111111111111111111111"),
   ("systemProgram", "11111111111111111111111111111111"),
   ("token2022Program", "TokenzQdBNbLqP5VEhdkAS6EPFLC1PHnBqCXEpPxuEb"),
   ("tokenProgram", "TokenkegQfeZyiNwAJbNbGKPFXCWuBvf9Ss623VQ5DA")]

/-- The settings where nothing is said. -/
def default : Settings where
  libraryName := "lib"
  packageName := ""
  packageVersion := "1.0.0"
  packageDescription := "Generated Dart package for Solana program interaction"
  aliases := defaultAliases
  builtinPrograms := defaultBuiltinPrograms
  clearsLibrary := true
  formatsCode := true
  isParallel := true

/-- The settings after a change. -/
def withOptions (settings : Settings) (options : Options) : Settings where
  libraryName := options.libraryName.getD settings.libraryName
  packageName := options.packageName.getD settings.packageName
  packageVersion := options.packageVersion.getD settings.packageVersion
  packageDescription := options.packageDescription.getD settings.packageDescription
  aliases := settings.aliases.insertMany options.aliases
  builtinPrograms := settings.builtinPrograms.insertMany options.builtinPrograms
  clearsLibrary := options.clearsLibrary.getD settings.clearsLibrary
  formatsCode := options.formatsCode.getD settings.formatsCode
  isParallel := options.isParallel.getD settings.isParallel

/-- The address of an account with a well-known name. -/
def builtinProgram? (settings : Settings) (name : String) : Option String :=
  settings.builtinPrograms[name]?

end Settings

namespace Options

/-- A table of texts, in written order. -/
def table? : Json → Option (List (String × String))
  | .object members => members.mapM fun (name, value) => value.toText?.map (name, ·)
  | _ => none

/-- The names of the options, in declared order. -/
def names : List String :=
  ["libraryName", "packageName", "packageVersion", "packageDescription", "dependencyMap",
   "builtinPrograms", "deleteFolderBeforeRendering", "formatCode", "parallel"]

/-- The members of a document that holds options. No other members may stand there; a list has
to be complete. -/
def record? (json : Json) : Option Record :=
  match json with
  | .object members =>
    if members.all fun member => names.contains member.1 then json.record? names else none
  | .array items => if items.length = names.length then json.record? names else none
  | _ => none

/-- The options that a document holds. -/
def ofJson? (json : Json) : Option Options := do
  let record ← record? json
  return { libraryName := ← record.optional? "libraryName" Json.toText?
           packageName := ← record.optional? "packageName" Json.toText?
           packageVersion := ← record.optional? "packageVersion" Json.toText?
           packageDescription := ← record.optional? "packageDescription" Json.toText?
           aliases := ← record.withDefault? "dependencyMap" table? []
           builtinPrograms := ← record.withDefault? "builtinPrograms" table? []
           clearsLibrary := ← record.optional? "deleteFolderBeforeRendering" Json.toBool?
           formatsCode := ← record.optional? "formatCode" Json.toBool?
           isParallel := ← record.optional? "parallel" Json.toBool? }

end Options

end DartClient
