import DartClient.Discriminator
import DartClient.Page.Basic

/-!
# Pages of accounts and defined types

An account has one page with the class of its data. The discriminator is checked when the data is
read. Where no field carries it, it stands in front of the fields: it is cut off before they are
read, put back when the data is written, and counted in the size.

A defined type has one page with its class or its name; an enum has a further page for each
variant, which the page of the enum exports.

## Main definitions

* `AccountClass`: the class of an account.
* `Resolver.accountPage`, `Resolver.typePages`: the pages.
-/

namespace DartClient

open Idl (Account DefinedType NumberFormat)

/-- What every class with a layout needs to import. -/
def layoutImports : ImportMap :=
  (ImportMap.empty.addModule borshModule).add typedDataModule ["Uint8List"]

/-! ## Accounts -/

/-- The class of the data of an account. -/
structure AccountClass where
  /-- The account. -/
  account : Account
  /-- The manifest of the data. -/
  manifest : Manifest
  /-- The discriminator. -/
  discriminator : Discriminator

/-- The only field of a class for data that is no class with fields. -/
def dataField (manifest : Manifest) : FieldManifest where
  name := "data"
  sourceName := "data"
  targetType := manifest.targetType
  codec := manifest.codec
  docs := []
  defaultValue := none

namespace AccountClass

/-- The name of the class. -/
def name (cls : AccountClass) : String := className cls.account.name

/-- The name of the file. -/
def stem (cls : AccountClass) : String := fileStem cls.account.name

/-- The fields. -/
def fields (cls : AccountClass) : List FieldManifest :=
  cls.manifest.fields?.getD [dataField cls.manifest]

/-- Whether the discriminator stands in front of the fields. -/
def isFramed (cls : AccountClass) : Bool := !cls.discriminator.isCarried

/-- The size of the data: the declared one, or else the size of the layout and of the
discriminator in front of it. -/
def size? (cls : AccountClass) : Option Nat :=
  cls.account.size <|> do
    let size ← cls.manifest.codec.fixedSize?
    if cls.isFramed then checkedSize (cls.discriminator.bytes.length + size) else some size

/-- The static members. -/
def constants (cls : AccountClass) : List String :=
  ["static final DISCRIMINATOR = " ++ byteListLiteral cls.discriminator.bytes ++ ";"] ++
  (cls.size?.map fun size => "static const int SIZE = " ++ toString size ++ ";").toList

/-- The statements that check the discriminator and read the fields. -/
def reader (cls : AccountClass) : List String :=
  [opening "if (data.length < DISCRIMINATOR.length)",
   "  throw ArgumentError('" ++ cls.name ++ " data is shorter than its discriminator');",
   closing,
   opening "for (var i = 0; i < DISCRIMINATOR.length; i++)",
   opening "  if (data[i] != DISCRIMINATOR[i])",
   "    throw ArgumentError('invalid " ++ cls.name ++ " discriminator');",
   "  " ++ closing,
   closing,
   RecordClass.readCall cls.name
     (if cls.isFramed then "data.sublist(DISCRIMINATOR.length)" else "data")]

/-- The method that writes the data. -/
def writer (cls : AccountClass) : List String :=
  ["/// The account data, discriminator included.",
   opening "Uint8List toAccountData()",
   if cls.isFramed then "  return Uint8List.fromList([...DISCRIMINATOR, ...toBorsh()]);"
    else "  return toBorsh();",
   closing]

/-- The class with annotated fields. -/
def record (cls : AccountClass) : RecordClass where
  name := cls.name
  docs := cls.account.docs
  fields := cls.fields
  constants := cls.constants
  checks := []
  reader := some cls.reader
  members := [cls.writer]

/-- The file. -/
def file (cls : AccountClass) : SourceFile where
  exports := none
  part := some cls.stem
  items := .record cls.record :: cls.manifest.declarations.flatMap declarationItems

/-- The page. -/
def page (cls : AccountClass) : Page :=
  .ofSource (generatedModule "accounts" cls.stem) (layoutImports.merge cls.manifest.imports)
    (classSymbols cls.name ++ cls.manifest.declarations.flatMap declarationSymbols) cls.file

end AccountClass

/-- The context of the data of an account. -/
def accountContext (account : Account) : ResolveContext :=
  let root := ResolveContext.root (className account.name) .account
  match account.data.structFields? with
  | some _ => root
  | none => root.field "Data"

namespace Resolver

/-- The class of an account. -/
def accountClass (resolver : Resolver) (account : Account) : Resolved AccountClass := do
  let manifest ← resolver.resolve account.data (accountContext account)
  return ⟨account, manifest, ← Discriminator.ofAccount account⟩

/-- The page of an account. -/
def accountPage (resolver : Resolver) (account : Account) : Resolved Rendering := do
  let cls ← resolver.accountClass account
  return ⟨[cls.page], cls.manifest.diagnostics⟩

end Resolver

/-! ## Defined types -/

/-- The part file of a page with declarations, where one of them needs it. -/
def declarationPart (stem : String) (declarations : List Declaration) : Option String :=
  if declarations.any Declaration.needsPart then some stem else none

/-- The page of a class with fields. -/
def structPage (type : DefinedType) (manifest : Manifest) (fields : List FieldManifest) : Page :=
  let name := className type.name
  let stem := fileStem type.name
  .ofSource (generatedModule "types" stem) (layoutImports.merge manifest.imports)
    (classSymbols name ++ manifest.declarations.flatMap declarationSymbols)
    { exports := none
      part := some stem
      items := .record (.plain name type.docs fields) ::
        manifest.declarations.flatMap declarationItems }

/-- The path of the page of a variant. -/
def variantModule (stem : String) (variant : VariantManifest) : String :=
  generatedModule ("types/" ++ stem) (fileStem variant.name)

/-- The page of a variant. -/
def variantPage (stem : String) (manifest : Manifest) (variant : VariantManifest) : Page :=
  let imports := layoutImports.merge manifest.imports
  let imports := if manifest.declarations.isEmpty then imports
    else imports.addModule (generatedModule "types" stem)
  .ofSource (variantModule stem variant) imports (classSymbols variant.name)
    { exports := none
      part := if variant.payload.fields.isEmpty then none else some (fileStem variant.name)
      items := [variantItem variant] }

/-- The page of an enum. -/
def enumPage (type : DefinedType) (manifest : Manifest) (size : NumberFormat)
    (variants : List VariantManifest) : Page :=
  let name := className type.name
  let stem := fileStem type.name
  let imports := variants.foldl
    (fun imports variant => imports.add (variantModule stem variant) (classSymbols variant.name))
    (layoutImports.merge manifest.imports)
  .ofSource (generatedModule "types" stem) imports
    (name :: manifest.declarations.flatMap declarationSymbols)
    { exports := some (variants.map fun variant => generatedModule stem (fileStem variant.name))
      part := declarationPart stem manifest.declarations
      items := .enum ⟨name, type.docs, size, variants⟩ ::
        manifest.declarations.flatMap declarationItems }

/-- The page of a further name for a type. -/
def aliasPage (type : DefinedType) (manifest : Manifest) : Page :=
  let name := className type.name
  let stem := fileStem type.name
  let imports := if manifest.declarations.isEmpty then manifest.imports
    else layoutImports.merge manifest.imports
  .ofSource (generatedModule "types" stem) imports
    (name :: manifest.declarations.flatMap declarationSymbols)
    { exports := none
      part := declarationPart stem manifest.declarations
      items := .synonym type.docs name manifest.targetType ::
        manifest.declarations.flatMap declarationItems }

/-- The pages of a defined type with its manifest. -/
def typePagesOf (type : DefinedType) (manifest : Manifest) : List Page :=
  match manifest.shape with
  | .struct fields => [structPage type manifest fields]
  | .enum size variants =>
    enumPage type manifest size variants ::
      variants.map (variantPage (fileStem type.name) manifest)
  | .plain => [aliasPage type manifest]

/-- The pages of a defined type. -/
def Resolver.typePages (resolver : Resolver) (type : DefinedType) : Resolved Rendering := do
  let manifest ← resolver.resolve type.type (.root (className type.name) .type)
  return ⟨typePagesOf type manifest, manifest.diagnostics⟩

end DartClient
