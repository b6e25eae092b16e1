import DartClient.Source.Builder

/-!
# Generated files

A generated file has the files that it exports, the part file with generated readers, if it needs
one, and then its items, with a blank line between two of them.

## Main definitions

* `Item`: what stands in a file, with `Item.lines`.
* `variantItem`, `declarationItems`: the classes of variants and of declarations.
* `SourceFile`: a file, with `SourceFile.lines`.
-/

namespace DartClient

/-- An item of a generated file. -/
inductive Item where
  /-- A class with annotated fields. -/
  | record (record : RecordClass)
  /-- The class of a variant without fields. -/
  | empty (variant : EmptyClass)
  /-- A class that holds one of several variants. -/
  | enum (enum : EnumClass)
  /-- A further name for a type. -/
  | synonym (docs : List String) (name target : String)
  /-- A function that makes an instruction. -/
  | builder (builder : Builder)
  /-- A function that derives an address. -/
  | helper (helper : DerivationHelper)
  /-- Other code. -/
  | code (lines : List String)

namespace Item

/-- The lines of an item. -/
def lines : Item → List String
  | record c => c.lines
  | empty c => c.lines
  | enum c => c.lines
  | synonym docs name target => docLines docs "" ++ ["typedef " ++ name ++ " = " ++ target ++ ";"]
  | builder f => f.lines
  | helper f => f.lines
  | code ls => ls

end Item

/-- The class of a variant. -/
def variantItem (variant : VariantManifest) : Item :=
  if variant.payload.fields.isEmpty then .empty ⟨variant.name⟩
  else .record (.plain variant.name [] variant.payload.fields)

/-- The classes of a declaration. -/
def declarationItems (declaration : Declaration) : List Item :=
  match declaration.shape with
  | .plain => []
  | .struct fields => [.record (.plain declaration.name [] fields)]
  | .enum size variants =>
    .enum ⟨declaration.name, [], size, variants⟩ :: variants.map variantItem

/-- The symbols of a class and of its layout. -/
def classSymbols (name : String) : List String := [name, layoutSymbol name]

/-- The symbols of a declaration. -/
def declarationSymbols (declaration : Declaration) : List String :=
  classSymbols declaration.name ++
  match declaration.shape with
  | .plain | .struct _ => []
  | .enum _ variants => variants.flatMap fun variant => classSymbols variant.name

/-- Whether the classes of a declaration need generated readers. -/
def Declaration.needsPart (declaration : Declaration) : Bool :=
  match declaration.shape with
  | .plain => false
  | .struct _ => true
  | .enum _ variants => variants.any fun variant => !variant.payload.fields.isEmpty

/-- A generated file. -/
structure SourceFile where
  /-- The files that it exports, if it is one that exports others. -/
  exports : Option (List String)
  /-- The name of the part file without its extension, if it has one. -/
  part : Option String
  /-- The items, in order. -/
  items : List Item

namespace SourceFile

/-- The name of the part file that goes with a file. -/
def partLine (stem : String) : String := "part '" ++ stem ++ ".g.dart';"

/-- The line that exports a file. -/
def exportLine (path : String) : String := "export '" ++ path ++ "';"

/-- The lines of a file. -/
def lines (file : SourceFile) : List String :=
  (file.exports.map fun paths => paths.map exportLine ++ [""]).getD [] ++
  (file.part.map fun stem => [partLine stem, ""]).getD [] ++
  [""].intercalate (file.items.map Item.lines)

end SourceFile

end DartClient
