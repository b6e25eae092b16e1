import DartClient.Imports

/-!
# Module paths

Generated files name each other by paths from the root of the library, which are made relative to
the file that imports them. Aliases, modules of the language and of packages, and paths that are
relative already stay as they are.

## Main definitions

* `isLibraryPath`: whether a module is a path from the root of the library.
* `relativeModule`: a module as seen from a file.
-/

namespace DartClient

/-- Whether a module is a path from the root of the library. -/
def isLibraryPath (module : String) (aliases : Aliases) : Bool :=
  !(aliases.contains module || module.startsWith "dart:" || module.startsWith "package:" ||
    module.startsWith "./" || module.startsWith "../")

/-- A module as seen from the file at a path: one step up for each directory of the path. -/
def relativeModule (module path : String) (aliases : Aliases) : String :=
  if isLibraryPath module aliases then
    String.join (List.replicate (path.toList.count '/') "../") ++ module
  else module

end DartClient
