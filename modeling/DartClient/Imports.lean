import DartClient.Text.Lines
import Std.Data.ExtTreeMap
import Std.Data.ExtTreeSet

/-!
# Imports

What a generated file imports: for each module either everything or a set of symbols. Merging only
ever adds; removing names the module and the symbols, and a module of which no symbol is left is
dropped. Modules and symbols are kept in ascending order.

Modules may go by aliases, which are replaced by the modules they stand for when the imports are
written down.

## Main definitions

* `ImportMap`: the imports, with `add`, `addModule`, `remove`, `merge` and `mapModules`.
* `ImportMap.contains`: whether a symbol of a module is imported.
* `ImportMap.resolve`, `ImportMap.render`: replacing aliases, and the text.
-/

namespace DartClient

/-- What one import brings into scope. -/
inductive Imported where
  /-- The whole module. -/
  | everything
  /-- Some symbols of it. -/
  | symbols (names : Std.ExtTreeSet String)
  deriving DecidableEq

/-- What is imported of a module after symbols have been added. -/
def Imported.add (symbols : List String) : Option Imported → Option Imported
  | some .everything => some .everything
  | some (.symbols names) => some (.symbols (names.insertMany symbols))
  | none => if symbols.isEmpty then none else some (.symbols (.ofList symbols))

/-- What is imported of a module after symbols have been removed. -/
def Imported.remove (symbols : List String) : Option Imported → Option Imported
  | some (.symbols names) =>
    let names := symbols.foldl (fun names symbol => names.erase symbol) names
    if names.isEmpty then none else some (.symbols names)
  | imported => imported

/-- The modules that aliases stand for. -/
abbrev Aliases := Std.ExtTreeMap String String

/-- The imports of a file, by module. -/
structure ImportMap where
  /-- What is imported from each module. -/
  entries : Std.ExtTreeMap String Imported
  deriving DecidableEq

namespace ImportMap

/-- No imports. -/
def empty : ImportMap := ⟨∅⟩

instance : Inhabited ImportMap := ⟨empty⟩

/-- What is imported from a module. -/
def get? (imports : ImportMap) (module : String) : Option Imported := imports.entries[module]?

/-- Whether a symbol of a module is imported. -/
def contains (imports : ImportMap) (module symbol : String) : Bool :=
  match imports.get? module with
  | some .everything => true
  | some (.symbols names) => names.contains symbol
  | none => false

/-- Whether anything of a module is imported. -/
def containsModule (imports : ImportMap) (module : String) : Bool :=
  imports.entries.contains module

/-- The number of modules. -/
def size (imports : ImportMap) : Nat := imports.entries.size

/-- The modules with what is imported from them, in ascending order. -/
def toList (imports : ImportMap) : List (String × Imported) := imports.entries.toList

/-! ## Adding -/

/-- Imports symbols of a module. -/
def add (imports : ImportMap) (module : String) (symbols : List String) : ImportMap :=
  ⟨imports.entries.alter module (Imported.add symbols)⟩

/-- Imports a whole module. -/
def addModule (imports : ImportMap) (module : String) : ImportMap :=
  ⟨imports.entries.insert module .everything⟩

/-- Imports of a module what another file imports of it. -/
def addImported (imports : ImportMap) (module : String) : Imported → ImportMap
  | .everything => imports.addModule module
  | .symbols names => imports.add module names.toList

/-- The imports of two files together. -/
def merge (imports other : ImportMap) : ImportMap :=
  other.toList.foldl (fun imports (module, imported) => imports.addImported module imported)
    imports

/-- The imports of several files together. -/
def merged (maps : List ImportMap) : ImportMap := maps.foldl merge empty

/-! ## Removing -/

/-- Removes symbols of a module; a module imported as a whole stays so. -/
def remove (imports : ImportMap) (module : String) (symbols : List String) : ImportMap :=
  ⟨imports.entries.alter module (Imported.remove symbols)⟩

/-- Removes a module. -/
def removeModule (imports : ImportMap) (module : String) : ImportMap :=
  ⟨imports.entries.erase module⟩

/-- Removes symbols of all modules. -/
def removeSymbols (imports : ImportMap) (symbols : List String) : ImportMap :=
  imports.toList.foldl (fun imports (module, _) => imports.remove module symbols) imports

/-! ## Renaming modules -/

/-- The imports with other module names; what modules of one new name import is merged. -/
def mapModules (rename : String → String) (imports : ImportMap) : ImportMap :=
  imports.toList.foldl
    (fun result (module, imported) => result.addImported (rename module) imported) empty

/-- The imports with aliases replaced by the modules that they stand for. -/
def resolve (imports : ImportMap) (aliases : Aliases) : ImportMap :=
  imports.mapModules fun module => aliases[module]?.getD module

/-! ## Text -/

/-- The groups in which imports are written, in order. -/
inductive ModuleGroup where
  /-- Modules of the language. -/
  | core
  /-- Modules of packages. -/
  | package
  /-- Modules of the same library. -/
  | library
  deriving DecidableEq, Repr

/-- The group of a module. -/
def groupOf (module : String) : ModuleGroup :=
  if module.startsWith "dart:" then .core
  else if module.startsWith "package:" then .package
  else .library

/-- The line of an import, without its end. -/
def renderLine (module : String) : Imported → String
  | .everything => "import '" ++ module ++ "';"
  | .symbols names => "import '" ++ module ++ "' show " ++ ", ".intercalate names.toList ++ ";"

/-- The lines of one group. -/
def groupLines (imports : ImportMap) (group : ModuleGroup) : List String :=
  imports.toList.filterMap fun (module, imported) =>
    if groupOf module = group then some (renderLine module imported) else none

/-- The lines of all imports: the groups in order, with a blank line between two of them. -/
def lines (imports : ImportMap) : List String :=
  [""].intercalate
    (([.core, .package, .library].map imports.groupLines).filter fun group => !group.isEmpty)

/-- The text of the imports, each line with its end. -/
def render (imports : ImportMap) (aliases : Aliases) : String :=
  Text.unlines (imports.resolve aliases).lines

end ImportMap

end DartClient
