import DartClient.Dictionary
import DartClient.Error
import DartClient.Manifest.Basic
import DartClient.Manifest.Context

/-!
# Resolving types

The manifest of a type of a description. Links are looked up in a dictionary; a link to an alias
is replaced by the type that it stands for. Types of unknown kinds become objects without layout,
and this is reported. Types that alter the layout of other types, numbers with their most
significant byte first and texts in other encodings than UTF-8 are refused, and so is anything
nested deeper than 64 levels. As a link to an alias goes one level down, an alias that leads back
to itself is refused too.

A list of a fixed number of plain numbers becomes a typed list, and a size around a text or bytes
becomes its length.

## Main definitions

* `Resolver`: a dictionary and the program whose links are followed.
* `Resolver.resolve`: the manifest of a type.
* `Resolver.resolveArguments`: the manifest of the arguments of an instruction.
-/

namespace DartClient

open Idl (TypeNode StructField EnumVariant NumberType NumberFormat Count BytesEncoding)

/-- The alias of the module with typed lists. -/
def typedDataModule : String := "dartTypedData"

/-- The alias of the module with addresses. -/
def solanaModule : String := "solana"

/-- The alias of the module with annotations. -/
def borshModule : String := "borsh"

/-- The path of a generated file. -/
def generatedModule (folder file : String) : String := folder ++ "/" ++ file ++ ".dart"

/-- The greatest depth of a type. -/
def maxTypeDepth : Nat := 64

/-- A result of resolving. -/
abbrev Resolved (α : Type) := Except ClientError α

/-! ## Leaves -/

/-- The refusal of a type. -/
def refuse {α : Type} (kind : String) (ctx : ResolveContext) (fault : TypeFault) : Resolved α :=
  .error (.unsupportedType ctx.location kind fault)

/-- The format of a little endian number; others are refused on behalf of the type that uses it. -/
def littleEndianFormat (number : NumberType) (kind : String) (ctx : ResolveContext) :
    Resolved NumberFormat :=
  match number.endian with
  | .little => .ok number.format
  | .big => refuse kind ctx .bigEndian

/-- How a number of items is stored. -/
def countLength (count : Count) (kind : String) (ctx : ResolveContext) : Resolved Length :=
  match count with
  | .fixed value => .ok (.fixed value)
  | .prefixed width => (littleEndianFormat width kind ctx).map .prefixed
  | .remainder => .ok .remainder

/-- The typed list that holds numbers of a format. -/
def typedList? : NumberFormat → Option String
  | .u8 => some "Uint8List"
  | .i8 => some "Int8List"
  | .u16 => some "Uint16List"
  | .i16 => some "Int16List"
  | .u32 => some "Uint32List"
  | .i32 => some "Int32List"
  | .u64 => some "Uint64List"
  | .i64 => some "Int64List"
  | .f32 => some "Float32List"
  | .f64 => some "Float64List"
  | .u128 | .i128 | .shortU16 => none

/-- The typed list and the format of an item that is a plain number. -/
def typedItem? (item : TypeNode) : Option (String × NumberFormat) := do
  let format ← item.plainNumber?
  return (← typedList? format, format)

/-- The manifest of a number; `kind` is that of the type it stands for. -/
def numberManifest (number : NumberType) (kind : String) (ctx : ResolveContext) :
    Resolved Manifest := do
  let format ← littleEndianFormat number kind ctx
  let targetType :=
    if format.isFloat then "double" else if format.isWideInteger then "BigInt" else "int"
  return .leaf targetType (.number format)

/-- The manifest of a text. -/
def stringManifest (encoding : BytesEncoding) (length : Length) (kind : String)
    (ctx : ResolveContext) : Resolved Manifest :=
  if encoding = .utf8 then .ok (.leaf "String" (.string length)) else refuse kind ctx .notUtf8

/-- The manifest of bytes. -/
def bytesManifest (length : Length) : Manifest :=
  (Manifest.leaf "Uint8List" (.bytes length)).withImport typedDataModule ["Uint8List"]

/-- The manifest of a fixed number of plain numbers. -/
def typedListManifest (list : String) (format : NumberFormat) (count : Nat) : Manifest :=
  (Manifest.leaf (list ++ " /* length: " ++ toString count ++ " */")
    (.typedArray (.number format) count)).withImport typedDataModule [list]

/-- The manifest of a type of unknown kind. -/
def unknownManifest (kind : String) (ctx : ResolveContext) : Manifest :=
  { Manifest.leaf "Object" (.unknown kind) with
    diagnostics := [⟨ctx.location,
      "unsupported type node `" ++ kind ++ "` rendered as `Object` without a codec"⟩] }

/-- The parts of a text before and behind the first length mark, if there is one. -/
def splitLengthMark : List Char → Option (List Char × List Char)
  | [] => none
  | ' ' :: '/' :: '*' :: rest => some ([], rest)
  | c :: rest => (splitLengthMark rest).map fun (head, tail) => (c :: head, tail)

/-- The type whose values may be absent; a length mark stays behind the question mark. -/
def nullableType (targetType : String) : String :=
  match splitLengthMark targetType.toList with
  | some (head, tail) => String.ofList head ++ "? /*" ++ String.ofList tail
  | none => targetType ++ "?"

/-- The type of a tuple. -/
def tupleType : List String → String
  | [type] => "(" ++ type ++ ",)"
  | types => "(" ++ ", ".intercalate types ++ ")"

/-! ## One level -/

/-- A dictionary and the name of the program whose links are followed. -/
structure Resolver where
  /-- The nodes that links can name. -/
  dictionary : Dictionary
  /-- The name of the program. -/
  program : String

/-- How the types one level down are resolved. -/
abbrev ResolveChild := TypeNode → ResolveContext → Resolved Manifest

/-- A wrapper keeps the class that the wrapped type is. -/
def wrapKeepingShape (inner : Manifest) (codec : Codec) : Manifest :=
  { inner.wrap inner.targetType codec with shape := inner.shape }

/-- The items of a tuple: what they need together, their types and their layouts. -/
def tupleManifest (child : ResolveChild) (ctx : ResolveContext) (items : List TypeNode) :
    Resolved Manifest := do
  let children ← items.mapM fun item => child item ctx.item
  let needs := children.foldl Manifest.absorb (.leaf "" (.tuple []))
  return needs.wrap (tupleType (children.map (·.targetType)))
    (.tuple (children.map (·.codec)))

/-- A field with the manifest of its type. -/
def fieldManifest (child : ResolveChild) (ctx : ResolveContext) (field : StructField) :
    Resolved (FieldManifest × Manifest) := do
  let manifest ← child field.type (ctx.field (className field.name))
  return ({ name := ctx.naming.spell field.name
            sourceName := field.name
            targetType := manifest.targetType
            codec := manifest.codec
            docs := field.docs
            defaultValue := field.defaultValue }, manifest)

/-- A class, which stands beside its user or is the user itself. -/
def classManifest (ctx : ResolveContext) (name : String) (codec : Codec) (shape : Shape)
    (children : List Manifest) : Manifest :=
  let needs := children.foldl Manifest.absorb (.leaf name codec)
  if ctx.declares then needs.declare ⟨name, shape⟩ else { needs with shape := shape }

/-- The manifest of a class with fields. -/
def structManifest (child : ResolveChild) (ctx : ResolveContext) (fields : List StructField) :
    Resolved Manifest := do
  let name := ctx.typeName "AnonymousStruct"
  let resolved ← fields.mapM (fieldManifest child ctx)
  let fields := resolved.map Prod.fst
  return classManifest ctx name (.struct name (fields.map FieldManifest.entry)) (.struct fields)
    (resolved.map Prod.snd)

/-- An item of a payload, at a position. -/
def payloadItem (child : ResolveChild) (ctx : ResolveContext) (position : Nat) (item : TypeNode) :
    Resolved (FieldManifest × Manifest) := do
  let manifest ← child item (ctx.field ("Field" ++ toString position))
  let name := "field" ++ toString position
  return ({ name := name
            sourceName := name
            targetType := manifest.targetType
            codec := manifest.codec
            docs := []
            defaultValue := none }, manifest)

/-- The items of a payload from a position on. -/
def payloadItems (child : ResolveChild) (ctx : ResolveContext) (position : Nat) :
    List TypeNode → Resolved (List (FieldManifest × Manifest))
  | [] => .ok []
  | item :: items => do
    return (← payloadItem child ctx position item) ::
      (← payloadItems child ctx (position + 1) items)

/-- The payload of a variant, and what it needs. -/
def variantPayload (child : ResolveChild) (ctx : ResolveContext) :
    EnumVariant → Resolved (VariantPayload × List Manifest)
  | .empty _ => .ok (.empty, [])
  | .tuple _ items => do
    let resolved ← payloadItems child ctx 0 items
    return (.tuple (resolved.map Prod.fst), resolved.map Prod.snd)
  | .struct _ fields => do
    let manifest ← structManifest child ctx fields
    return (.struct (manifest.fields?.getD []), [manifest])

/-- The variants of an enum from an index on, and what they need. -/
def variantManifests (child : ResolveChild) (ctx : ResolveContext) (index : Nat) :
    List EnumVariant → Resolved (List (VariantManifest × List Manifest))
  | [] => .ok []
  | variant :: variants => do
    let name := className variant.name
    let (payload, needs) ← variantPayload child (ctx.variant name) variant
    let manifest := ⟨name, memberName variant.name, index, payload⟩
    return (manifest, needs) :: (← variantManifests child ctx (index + 1) variants)

/-- The manifest of a class with variants. -/
def enumManifest (child : ResolveChild) (ctx : ResolveContext) (variants : List EnumVariant)
    (size : NumberType) : Resolved Manifest := do
  let name := ctx.typeName "AnonymousEnum"
  let size ← littleEndianFormat size "enumTypeNode" ctx
  let resolved ← variantManifests child ctx 0 variants
  let variants := resolved.map Prod.fst
  return classManifest ctx name (.enum name size (variants.map VariantManifest.codec))
    (.enum size variants) (resolved.flatMap Prod.snd)

/-- The symbols of a class that come with a layout of its own. -/
def layoutSymbol (name : String) : String := "B" ++ name

/-- The manifest of a link to an alias, given the manifest of the type it stands for. The classes
beside that type stand in the file of the alias. -/
def aliasManifest (name module : String) (inner : Manifest) : Manifest :=
  let symbols := inner.declarations.flatMap fun declaration =>
    [layoutSymbol declaration.name, declaration.name]
  ({ inner with declarations := [] }.wrap name inner.codec).withImport module (name :: symbols)

/-- The manifest of a link. -/
def Resolver.linkManifest (resolver : Resolver) (child : ResolveChild) (ctx : ResolveContext)
    (link : String) (program : Option String) : Resolved Manifest := do
  match resolver.dictionary.definedType? resolver.program link program with
  | none => .error (.unresolvedType ctx.location link)
  | some defined =>
    let name := className link
    let module := generatedModule "types" (fileStem link)
    match DefinedShape.ofType defined.type with
    | .struct =>
      return (Manifest.leaf name (.defined name .struct)).withImport module
        [name, layoutSymbol name]
    | .enum variants =>
      return (Manifest.leaf name (.defined name (.enum variants))).withImport module
        (name :: variants.map layoutSymbol)
    | .synonym =>
      let inner ← child defined.type
        { ResolveContext.root name .type with depth := ctx.depth + 1 }
      return aliasManifest name module inner

/-- The manifest of a type, given how the types one level down are resolved. -/
def Resolver.resolveLevel (resolver : Resolver) (child : ResolveChild) (node : TypeNode)
    (ctx : ResolveContext) : Resolved Manifest :=
  if maxTypeDepth < ctx.depth then refuse node.kind ctx .tooDeep
  else match node with
  | .number number | .amount number | .solAmount number | .dateTime number =>
    numberManifest number node.kind ctx
  | .boolean size => do return .leaf "bool" (.boolean (← littleEndianFormat size node.kind ctx))
  | .string encoding => stringManifest encoding .borsh node.kind ctx
  | .bytes => .ok (bytesManifest .remainder)
  | .publicKey =>
    .ok ((Manifest.leaf "Ed25519HDPublicKey" .publicKey).withImport solanaModule
      ["Ed25519HDPublicKey"])
  | .array item count => do
    let count ← countLength count node.kind ctx
    match count, typedItem? item with
    | .fixed size, some (list, format) => return typedListManifest list format size
    | _, _ =>
      let item ← child item ctx.item
      return item.wrap ("List<" ++ item.targetType ++ ">") (.list item.codec count)
  | .option item flag isFixed => do
    let flag ← littleEndianFormat flag node.kind ctx
    let item ← child item ctx.item
    return item.wrap (nullableType item.targetType) (.option item.codec flag isFixed)
  | .set item count => do
    let count ← countLength count node.kind ctx
    let item ← child item ctx.item
    return item.wrap ("Set<" ++ item.targetType ++ ">") (.set item.codec count)
  | .map key value count => do
    let count ← countLength count node.kind ctx
    let key ← child key ctx.item
    let value ← child value ctx.item
    return (key.absorb value).wrap
      ("Map<" ++ key.targetType ++ ", " ++ value.targetType ++ ">")
      (.map key.codec value.codec count)
  | .tuple items => tupleManifest child ctx items
  | .fixedSize (.string encoding) size => stringManifest encoding (.fixed size) node.kind ctx
  | .fixedSize .bytes size => .ok (bytesManifest (.fixed size))
  | .fixedSize inner size => do
    let inner ← child inner ctx.item
    return wrapKeepingShape inner (.fixedSize inner.codec size)
  | .sizePrefix inner width => do
    let width ← littleEndianFormat width node.kind ctx
    match inner with
    | .string encoding => stringManifest encoding (.prefixed width) node.kind ctx
    | .bytes => return bytesManifest (.prefixed width)
    | inner =>
      let inner ← child inner ctx.item
      return wrapKeepingShape inner (.sizePrefixed inner.codec width)
  | .link name program => resolver.linkManifest child ctx name program
  | .struct fields => structManifest child ctx fields
  | .enum variants size => enumManifest child ctx variants size
  | .altered kind => refuse kind.name ctx .inexpressible
  | .unknown => .ok (unknownManifest node.kind ctx)

/-! ## All levels -/

/-- The manifest of a type that goes at most so many levels down. -/
def Resolver.resolveWithin (resolver : Resolver) : Nat → ResolveChild
  | 0 => fun node ctx => refuse node.kind ctx .tooDeep
  | levels + 1 => resolver.resolveLevel (resolver.resolveWithin levels)

/-- The number of levels that are enough below a depth, as every level adds to the depth. -/
def levelsBelow (depth : Nat) : Nat := maxTypeDepth + 2 - depth

namespace Resolver

/-- The manifest of a type. -/
def resolve (resolver : Resolver) (node : TypeNode) (ctx : ResolveContext) : Resolved Manifest :=
  resolver.resolveWithin (levelsBelow ctx.depth) node ctx

/-- The manifest of arguments, which are the fields of a class. -/
def resolveArguments (resolver : Resolver) (arguments : List Idl.Argument)
    (ctx : ResolveContext) : Resolved Manifest :=
  structManifest resolver.resolve ctx (arguments.map Idl.Argument.toField)

end Resolver

end DartClient
