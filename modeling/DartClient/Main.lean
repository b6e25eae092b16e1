import DartClient.CommandLine

/-!
# The program

Reads descriptions, generates a package for each and writes it. What could not be generated is
reported; the rest is written all the same. Generated code is written as it is made.
-/

namespace DartClient

/-- Reads a file. -/
def readText (path : String) : IO String := do
  try IO.FS.readFile path
  catch error =>
    throw (.userError ((PackageFault.unreadable path).message ++ ": " ++ toString error))

/-- Reads a document that has to be of some kind. -/
def readDocument {α : Type} (path : String) (parse : String → Option α) (fault : PackageFault) :
    IO α := do
  match parse (← readText path) with
  | some value => return value
  | none => throw (.userError fault.message)

/-- Makes a change of the file system. -/
def act : FileAction → IO Unit
  | .clear path => do
    try IO.FS.removeDirAll path
    catch
      | .noFileOrDirectory .. => return ()
      | error => throw error
  | .write path text => do
    IO.FS.createDirAll ("/".intercalate (path.splitOn "/").dropLast)
    IO.FS.writeFile path text

/-- Generates the package of a description and writes it; gives the number of units that could not
be generated. -/
def runDescription (output : String) (settings : Settings) (path : String) : IO Nat := do
  let root ← readDocument path parseDescription? (.noDescription path)
  let client := generateClient root settings
  let folder := joinPath output (pathStem path)
  try (writePlan client.files folder settings).forM act
  catch error =>
    throw (.userError ((PackageFault.unwritable folder).message ++ ": " ++ toString error))
  for failure in client.failures do
    IO.eprintln (path ++ ": " ++ failure.unit ++ ": " ++ failure.error.message)
  return client.failures.length

/-- The documents in a folder. -/
def documentsIn (folder : String) : IO (List String) := do
  let entries ← (← IO.FS.realPath folder).readDir
  return (entries.toList.map (·.fileName)).filterMap fun name =>
    if isDocumentName name then some (joinPath folder name) else none

/-- Does what a run is asked for; gives the number of units that could not be generated. -/
def run (arguments : Arguments) : IO Nat := do
  let found ← match arguments.descriptionFolder with
    | some folder => documentsIn folder
    | none => pure []
  let paths := sortedPaths (arguments.descriptions ++ found)
  if paths.isEmpty then throw (.userError noDescriptions)
  let settings ← match arguments.options with
    | some path => do
      let options ← readDocument path parseOptions? (.noOptions path)
      pure (Settings.default.withOptions options)
    | none => pure .default
  let settings := arguments.settings settings
  let failures ← paths.mapM (runDescription (arguments.output.getD "") settings)
  return failures.foldl (· + ·) 0

end DartClient

/-- Exit code 2 tells that the words are refused or that units could not be generated, and 1 that
a file could not be read or written. -/
def main (words : List String) : IO UInt32 := do
  match DartClient.Arguments.parse words with
  | .error fault =>
    IO.eprintln ("error: " ++ fault.message)
    return 2
  | .ok arguments =>
    try
      let failures ← DartClient.run arguments
      if failures = 0 then return 0
      IO.eprintln (toString failures ++ " unit(s) failed to render")
      return 2
    catch error =>
      IO.eprintln (toString error)
      return 1
