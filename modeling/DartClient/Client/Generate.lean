import DartClient.Client.Accounts
import DartClient.Client.Unit
import DartClient.Page.Instruction
import DartClient.Page.Package
import DartClient.Page.Program

/-!
# Generating clients

A client is a table of files. Its units do not depend on each other: one that cannot be generated
is reported and the others are generated all the same. Where two pages have one path the later one
stands.

## Main definitions

* `ClientUnit.generate`: the pages of a unit.
* `Client`: the files, with what went wrong and what could not be expressed.
* `generateClient`: the client of a description.
-/

namespace DartClient

open Idl (Root Program)

/-- The pages of a unit. -/
def ClientUnit.generate (part : ClientUnit) (dictionary : Dictionary) (settings : Settings) :
    Resolved Rendering :=
  match part.program? with
  | none => .error (.missingProgram part.name)
  | some program =>
    let resolver : Resolver := ⟨dictionary, program.name⟩
    match part.content with
    | .account account => resolver.accountPage account
    | .instruction instruction => do
      let accounts ← resolver.builderAccounts settings instruction
      resolver.instructionPage instruction accounts program
    | .definedType type => resolver.typePages type
    | .pda pda => resolver.pdaPage program pda
    | .program => do return ⟨[← programPage program], []⟩
    | .errors => .ok ⟨(errorsPage? program).toList, []⟩

/-- A unit that could not be generated. -/
structure UnitFailure where
  /-- How the unit is called. -/
  unit : String
  /-- Why it could not be generated. -/
  error : ClientError

/-- A generated client. -/
structure Client where
  /-- The texts of the files, by path. -/
  files : Std.ExtTreeMap String String
  /-- The units that could not be generated, in order. -/
  failures : List UnitFailure
  /-- What could not be expressed, in order. -/
  diagnostics : List Diagnostic

/-- Whether every unit has been generated. -/
def Client.isComplete (client : Client) : Bool := client.failures.isEmpty

/-- A unit with what has become of it. -/
structure UnitResult where
  /-- The unit. -/
  unit : ClientUnit
  /-- The pages, or why there are none. -/
  result : Resolved Rendering

namespace UnitResult

/-- The pages of a unit, none if it could not be generated. -/
def pages (result : UnitResult) : List Page :=
  match result.result with
  | .ok rendering => rendering.pages
  | .error _ => []

/-- What could not be expressed in a unit that has been generated. -/
def diagnostics (result : UnitResult) : List Diagnostic :=
  match result.result with
  | .ok rendering => rendering.diagnostics
  | .error _ => []

/-- The failure of a unit that could not be generated. -/
def failure? (result : UnitResult) : Option UnitFailure :=
  match result.result with
  | .ok _ => none
  | .error error => some ⟨result.unit.name, error⟩

end UnitResult

/-- The units of a description with what has become of them. -/
def unitResults (root : Root) (settings : Settings) : List UnitResult :=
  let dictionary := Dictionary.ofRoot root
  root.units.map fun part => ⟨part, part.generate dictionary settings⟩

/-- All pages of a client, the page of the library last. -/
def clientPages (results : List UnitResult) (settings : Settings) : List Page :=
  let pages := encoderPage :: results.flatMap UnitResult.pages
  pages ++ [libraryIndex (pages.map (·.path)) settings.libraryName]

/-- The path of a page in a client. -/
def clientPath (settings : Settings) (page : Page) : String :=
  settings.libraryName ++ "/" ++ page.path

/-- The path of the description of the package. -/
def pubspecPath : String := "pubspec.yaml"

/-- The files of pages and of the description of the package. -/
def clientFiles (pages : List Page) (settings : Settings) (program : String) :
    Std.ExtTreeMap String String :=
  (Std.ExtTreeMap.ofList
    (pages.map fun page => (clientPath settings page, page.render settings.aliases))).insert
    pubspecPath (pubspec settings program)

/-- The client of a description. -/
def generateClient (root : Root) (settings : Settings) : Client :=
  let results := unitResults root settings
  { files := clientFiles (clientPages results settings) settings root.program.name
    failures := results.filterMap UnitResult.failure?
    diagnostics := results.flatMap UnitResult.diagnostics }

end DartClient
