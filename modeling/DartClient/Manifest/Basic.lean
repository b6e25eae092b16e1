import DartClient.Codec.Annotation
import DartClient.Idl.TypeNode
import DartClient.Imports

/-!
# Manifests

A manifest is all that the generated code needs to know about a type: how the type is spelled, its
byte layout, what has to be imported, which classes stand beside it, and what could not be
expressed.

## Main definitions

* `Manifest`: the manifest of a type.
* `FieldManifest`, `VariantManifest`, `Shape`: the parts of classes.
* `Declaration`, `Diagnostic`: classes beside the type, and degradations.
-/

namespace DartClient

open Idl (NumberFormat ValueNode)

/-- Something that could not be expressed and has been degraded. -/
structure Diagnostic where
  /-- Where it was found. -/
  place : String
  /-- What has become of it. -/
  message : String
  deriving DecidableEq, Repr

/-- The text of a diagnostic. -/
def Diagnostic.render (diagnostic : Diagnostic) : String :=
  diagnostic.place ++ ": " ++ diagnostic.message

/-- A field of a class. -/
structure FieldManifest where
  /-- The identifier in the generated code. -/
  name : String
  /-- The name in the description. -/
  sourceName : String
  /-- The type in the generated code. -/
  targetType : String
  /-- The layout. -/
  codec : Codec
  /-- The lines of its documentation. -/
  docs : List String
  /-- The value it has where none is given. -/
  defaultValue : Option ValueNode

/-- A length that the generated code checks. -/
inductive FixedLength where
  /-- A number of bytes. -/
  | bytes (size : Nat)
  /-- A number of elements. -/
  | elements (count : Nat)
  deriving DecidableEq, Repr

namespace FieldManifest

/-- The annotation of a field. -/
def annotation? (field : FieldManifest) : Option String := field.codec.annotation?

/-- The length that a field always has. -/
def fixedLength? (field : FieldManifest) : Option FixedLength :=
  match field.codec with
  | .bytes (.fixed size) => some (.bytes size)
  | .typedArray _ count => some (.elements count)
  | .list _ (.fixed count) => some (.elements count)
  | _ => none

/-- The layout of a field under its name in the description. -/
def entry (field : FieldManifest) : FieldCodec := ⟨field.sourceName, field.codec⟩

end FieldManifest

/-- The payload of a variant. -/
inductive VariantPayload where
  /-- Nothing. -/
  | empty
  /-- Items without names of their own. -/
  | tuple (fields : List FieldManifest)
  /-- Named fields. -/
  | struct (fields : List FieldManifest)

namespace VariantPayload

/-- The fields of a payload. -/
def fields : VariantPayload → List FieldManifest
  | .empty => []
  | .tuple fields | .struct fields => fields

/-- The layout of a payload. -/
def codec : VariantPayload → Payload
  | .empty => .empty
  | .tuple fields => .tuple (fields.map FieldManifest.codec)
  | .struct fields => .struct (fields.map FieldManifest.entry)

end VariantPayload

/-- A variant of an enum. -/
structure VariantManifest where
  /-- The class. -/
  name : String
  /-- The factory of the enum class that makes it. -/
  factory : String
  /-- The position among the variants. -/
  index : Nat
  /-- The payload. -/
  payload : VariantPayload

/-- The layout of a variant. -/
def VariantManifest.codec (variant : VariantManifest) : VariantCodec :=
  ⟨variant.name, variant.index, variant.payload.codec⟩

/-- What kind of class a type is. -/
inductive Shape where
  /-- None. -/
  | plain
  /-- A class with fields. -/
  | struct (fields : List FieldManifest)
  /-- A class with variants. -/
  | enum (size : NumberFormat) (variants : List VariantManifest)

/-- A class that stands beside a type. -/
structure Declaration where
  /-- The name. -/
  name : String
  /-- The kind of class. -/
  shape : Shape

/-- What the generated code needs to know about a type. -/
structure Manifest where
  /-- The type in the generated code. -/
  targetType : String
  /-- What it needs to import. -/
  imports : ImportMap
  /-- The classes beside it, innermost first, each name once. -/
  declarations : List Declaration
  /-- The layout. -/
  codec : Codec
  /-- The kind of class that the type itself is. -/
  shape : Shape
  /-- What could not be expressed. -/
  diagnostics : List Diagnostic

namespace Manifest

/-- The manifest of a type that needs nothing else. -/
def leaf (targetType : String) (codec : Codec) : Manifest where
  targetType := targetType
  imports := .empty
  declarations := []
  codec := codec
  shape := .plain
  diagnostics := []

/-- A manifest that imports some symbols as well. -/
def withImport (manifest : Manifest) (module : String) (symbols : List String) : Manifest :=
  { manifest with imports := manifest.imports.add module symbols }

/-- A type around the type of a manifest, which needs the same. -/
def wrap (manifest : Manifest) (targetType : String) (codec : Codec) : Manifest :=
  { manifest with targetType := targetType, codec := codec, shape := .plain }

/-- A manifest with a further class beside it, unless there is one of its name already. -/
def declare (manifest : Manifest) (declaration : Declaration) : Manifest :=
  if manifest.declarations.any (·.name == declaration.name) then manifest
  else { manifest with declarations := manifest.declarations ++ [declaration] }

/-- A manifest that needs what another one needs as well. -/
def absorb (manifest child : Manifest) : Manifest :=
  let manifest := { manifest with imports := manifest.imports.merge child.imports }
  let manifest := child.declarations.foldl declare manifest
  { manifest with diagnostics := manifest.diagnostics ++ child.diagnostics }

/-- The fields of a type that is a class with fields. -/
def fields? (manifest : Manifest) : Option (List FieldManifest) :=
  match manifest.shape with
  | .struct fields => some fields
  | _ => none

end Manifest

end DartClient
