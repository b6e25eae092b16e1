import DartClient.Module
import DartClient.Source.File
import DartClient.Text.Blank

/-!
# Pages

A page is a generated file before it is written down: its imports still name other files by paths
from the root of the library. Writing it down drops the imports of what the page defines itself
and makes the paths relative to the page.

## Main definitions

* `Page`: a page, with `Page.ofSource` for pages made of items.
* `Page.finalImports`: the imports as they are written down.
* `Page.render`: the text.
-/

namespace DartClient

/-- What stands at the beginning of every file. -/
def banner : List String :=
  ["// This code was AUTOGENERATED using the codama library.",
   "// Please DO NOT EDIT THIS FILE, instead use visitors",
   "// to add features, then rerun codama to update it.",
   "//",
   "// https://github.com/codama-idl/codama",
   "//"]

/-- A generated file before it is written down. -/
structure Page where
  /-- The path from the root of the library. -/
  path : String
  /-- The imports, by paths from the root of the library or by aliases. -/
  imports : ImportMap
  /-- The symbols that the page defines. -/
  defines : List String
  /-- The text below the imports. -/
  body : String
  deriving DecidableEq

namespace Page

/-- The page of a file. -/
def ofSource (path : String) (imports : ImportMap) (defines : List String) (file : SourceFile) :
    Page :=
  ⟨path, imports, defines, Text.unlines file.lines⟩

/-- The imports without what the page defines itself, relative to the page. -/
def finalImports (page : Page) (aliases : Aliases) : ImportMap :=
  ((page.imports.removeModule page.path).removeSymbols page.defines).mapModules fun module =>
    relativeModule module page.path aliases

/-- The text of a page. -/
def render (page : Page) (aliases : Aliases) : String :=
  let imports := (page.finalImports aliases).render aliases
  Text.unlines banner ++ (if imports.isEmpty then "" else "\n" ++ imports) ++ "\n" ++
    Text.trimEnd page.body ++ "\n"

end Page

/-- The pages of a part of a client, and what could not be expressed on them. -/
structure Rendering where
  /-- The pages. -/
  pages : List Page
  /-- What could not be expressed. -/
  diagnostics : List Diagnostic

end DartClient
