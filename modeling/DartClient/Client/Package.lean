import DartClient.Client.FileTree
import DartClient.Client.Generate
import DartClient.Idl.Reader
import DartClient.Json.Reader

/-!
# Packages

Making a package of a description in a file: the description is read, the client is generated,
and its files are written in ascending order of their paths, into a folder whose library has been
cleared before if the settings say so. Files outside of the library are overwritten in place.

## Main definitions

* `parseDescription?`, `parseOptions?`: reading documents.
* `writePlan`: what is done to write files.
* `FileTree.generatePackage`: from the file of a description to a package.
-/

namespace DartClient

open Idl (Root)

/-- Why no package is made. -/
inductive PackageFault where
  /-- A file cannot be read. -/
  | unreadable (path : String)
  /-- A file cannot be written. -/
  | unwritable (path : String)
  /-- A file holds no description. -/
  | noDescription (path : String)
  /-- A file holds no options. -/
  | noOptions (path : String)
  deriving DecidableEq, Repr

/-- The wording of a fault. -/
def PackageFault.message : PackageFault → String
  | unreadable path => "failed to read `" ++ path ++ "`"
  | unwritable path => "failed to write below `" ++ path ++ "`"
  | noDescription path => "failed to parse IDL `" ++ path ++ "` as Codama root node"
  | noOptions path => "failed to parse renderer options `" ++ path ++ "`"

/-- The description that a text holds. -/
def parseDescription? (text : String) : Option Root := (Json.parse? text).bind Root.ofJson?

/-- The options that a text holds. -/
def parseOptions? (text : String) : Option Options := (Json.parse? text).bind Options.ofJson?

/-- What is done to write files, in ascending order of their paths, into a folder. -/
def writePlan (files : Std.ExtTreeMap String String) (folder : String) (settings : Settings) :
    List FileAction :=
  (if settings.clearsLibrary then [.clear (joinPath folder settings.libraryName)] else []) ++
  files.toList.map fun (path, text) => .write (joinPath folder path) text

namespace FileTree

/-- The description in a file. -/
def readDescription (tree : FileTree) (path : String) : Except PackageFault Root :=
  match tree.read? path with
  | none => .error (.unreadable path)
  | some text =>
    match parseDescription? text with
    | none => .error (.noDescription path)
    | some root => .ok root

/-- The options in a file. -/
def readOptions (tree : FileTree) (path : String) : Except PackageFault Options :=
  match tree.read? path with
  | none => .error (.unreadable path)
  | some text =>
    match parseOptions? text with
    | none => .error (.noOptions path)
    | some options => .ok options

/-- The file tree after files have been written into a folder; tells whether all could be
written. -/
def writeFiles (tree : FileTree) (files : Std.ExtTreeMap String String) (folder : String)
    (settings : Settings) : FileTree × Bool :=
  tree.perform (writePlan files folder settings)

/-- The file tree after the package of the description in a file has been written into a folder,
and the client. -/
def generatePackage (tree : FileTree) (path folder : String) (settings : Settings) :
    FileTree × Except PackageFault Client :=
  match tree.readDescription path with
  | .error fault => (tree, .error fault)
  | .ok root =>
    let client := generateClient root settings
    match tree.writeFiles client.files folder settings with
    | (tree, true) => (tree, .ok client)
    | (tree, false) => (tree, .error (.unwritable folder))

end FileTree

end DartClient
