import DartClient.Literal
import DartClient.Manifest.Resolve

/-!
# Classes of generated code

The classes that stand for data. A record class holds fields, and the code that writes and reads
it is generated from its annotations into a part file. A variant class without fields is complete
as it stands. An enum class wraps the class of one variant together with its position.

## Main definitions

* `RecordClass`, `EmptyClass`, `EnumClass`: the kinds of classes, each with its `lines`.
-/

namespace DartClient

open Idl (NumberFormat)

/-- The opening of a block behind some text. -/
def opening (head : String) : String := head ++ " \x7b"

/-- The end of a block. -/
def closing : String := "\x7d"

/-! ## Record classes -/

/-- A class with annotated fields. -/
structure RecordClass where
  /-- The name. -/
  name : String
  /-- The lines of its documentation. -/
  docs : List String
  /-- The fields, in order. -/
  fields : List FieldManifest
  /-- Static members in front. -/
  constants : List String
  /-- Statements that run before a value is made. -/
  checks : List String
  /-- The statements that read a value, where the generated ones are not enough. -/
  reader : Option (List String)
  /-- Members behind the reader, each with its lines. -/
  members : List (List String)

/-- A class that has nothing but its fields. -/
def RecordClass.plain (name : String) (docs : List String) (fields : List FieldManifest) :
    RecordClass where
  name := name
  docs := docs
  fields := fields
  constants := []
  checks := []
  reader := none
  members := []

/-- A field as a parameter. -/
def FieldManifest.parameter (field : FieldManifest) : String :=
  let parameter := "required " ++ field.targetType ++ " " ++ field.name
  match field.annotation? with
  | some annotation => annotation ++ " " ++ parameter
  | none => parameter

/-- The method that shows a value with its fields. -/
def showMethod (name : String) (fields : List FieldManifest) : List String :=
  ["  @override",
   opening "  String toString([int indent = 0])",
   "    final buffer = StringBuffer();",
   "    buffer.writeln('" ++ name ++ "(');"] ++
  fields.map (fun field =>
    "    buffer.writeln('  " ++ field.name ++ ": $" ++ field.name ++ "');") ++
  ["    buffer.write(')');",
   "    return buffer.toString();",
   "  " ++ closing]

namespace RecordClass

/-- The call of the generated reader on some data. -/
def readCall (name data : String) : String := "return _$" ++ name ++ "FromBorsh(" ++ data ++ ");"

/-- The static members, with a blank line behind them. -/
def constantLines (record : RecordClass) : List String :=
  if record.constants.isEmpty then [] else Text.indented "  " record.constants ++ [""]

/-- The parameters of the factory. -/
def parameterLines (record : RecordClass) : List String :=
  record.fields.flatMap fun field =>
    docLines field.docs "    " ++ ["    " ++ field.parameter ++ ","]

/-- The rest of the factory, and the constructor that methods need. -/
def factoryLines (record : RecordClass) : List String :=
  if record.checks.isEmpty then
    ["  \x7d) = _" ++ record.name ++ ";",
     "",
     "  const " ++ record.name ++ "._();"]
  else
    [opening "  \x7d)"] ++ Text.indented "    " record.checks ++
    ["    return _" ++ record.name ++ "("] ++
    record.fields.map (fun field => "      " ++ field.name ++ ": " ++ field.name ++ ",") ++
    ["    );",
     "  " ++ closing,
     "",
     "  " ++ record.name ++ "._();"]

/-- The statements that read a value. -/
def readerLines (record : RecordClass) : List String :=
  record.reader.getD [readCall record.name "data"]

/-- The lines of a class. -/
def lines (record : RecordClass) : List String :=
  docLines record.docs "" ++
  ["@BorshSerializable()",
   opening ("class " ++ record.name ++ " with _$" ++ record.name)] ++
  record.constantLines ++
  ["  factory " ++ record.name ++ "(\x7b"] ++
  record.parameterLines ++
  record.factoryLines ++
  ["",
   opening ("  static " ++ record.name ++ " fromBorsh(Uint8List data)")] ++
  Text.indented "    " record.readerLines ++
  ["  " ++ closing] ++
  record.members.flatMap (fun member => "" :: Text.indented "  " member) ++
  [""] ++
  showMethod record.name record.fields ++
  [closing]

end RecordClass

/-! ## Variant classes without fields -/

/-- The class of a variant without fields, and the layout that goes with it. -/
structure EmptyClass where
  /-- The name. -/
  name : String

/-- The lines of a class without fields and of its layout. -/
def EmptyClass.lines (variant : EmptyClass) : List String :=
  let name := variant.name
  [opening ("class " ++ name),
   "  const " ++ name ++ "();",
   "",
   opening ("  static " ++ name ++ " fromBorsh(Uint8List _data)"),
   "    return " ++ name ++ "();",
   "  " ++ closing,
   "",
   opening "  Uint8List toBorsh()",
   "    return Uint8List(0);",
   "  " ++ closing,
   "",
   "  @override",
   opening "  String toString([int indent = 0])",
   "    return '" ++ name ++ "()';",
   "  " ++ closing,
   closing,
   "",
   opening ("class " ++ layoutSymbol name ++ " implements BType<" ++ name ++ ">"),
   "  const " ++ layoutSymbol name ++ "();",
   "",
   "  @override",
   opening ("  void write(BinaryWriter writer, " ++ name ++ " value)") ++ closing,
   "",
   "  @override",
   opening ("  " ++ name ++ " read(BinaryReader reader)"),
   "    return " ++ name ++ "();",
   "  " ++ closing,
   closing]

/-! ## Enum classes -/

/-- A class that holds one of several variants. -/
structure EnumClass where
  /-- The name. -/
  name : String
  /-- The lines of its documentation. -/
  docs : List String
  /-- The format of the position. -/
  size : NumberFormat
  /-- The variants, in order. -/
  variants : List VariantManifest

/-- The parameters of the factory of a variant. -/
def VariantPayload.parameters : VariantPayload → String
  | .empty => ""
  | .tuple fields =>
    ", ".intercalate (fields.map fun field => field.targetType ++ " " ++ field.name)
  | .struct [] => ""
  | .struct fields =>
    "\x7b" ++ ", ".intercalate (fields.map fun field =>
      "required " ++ field.targetType ++ " " ++ field.name) ++ "\x7d"

/-- The arguments that the factory of a variant hands on. -/
def VariantPayload.arguments (payload : VariantPayload) : String :=
  ", ".intercalate (payload.fields.map fun field => field.name ++ ": " ++ field.name)

namespace EnumClass

/-- The factory of a variant, behind a blank line. -/
def factoryLines (name : String) (variant : VariantManifest) : List String :=
  ["",
   opening ("  factory " ++ name ++ "." ++ variant.factory ++ "(" ++
     variant.payload.parameters ++ ")"),
   "    return " ++ name ++ "._(" ++ variant.name ++ "(" ++ variant.payload.arguments ++ "), " ++
     toString variant.index ++ ");",
   "  " ++ closing]

/-- The comment that shows how a field of the class is annotated. -/
def usage (enum : EnumClass) : String :=
  let layouts := enum.variants.map fun variant =>
    variant.name ++ ": " ++ layoutSymbol variant.name ++ "()"
  "// Usage: @BEnum<" ++ enum.name ++ ">(\x7b" ++ ", ".intercalate layouts ++
    "\x7d) required " ++ enum.name ++ " value,"

/-- The lines of a class. -/
def lines (enum : EnumClass) : List String :=
  docLines enum.docs "" ++
  [opening ("class " ++ enum.name),
   "  final dynamic variant;",
   "  final int discriminant;",
   "",
   "  const " ++ enum.name ++ "._(this.variant, this.discriminant);"] ++
  enum.variants.flatMap (factoryLines enum.name) ++
  ["",
   "  @override",
   opening "  String toString()",
   "    return variant.toString();",
   "  " ++ closing,
   "",
   opening "  Uint8List toBorsh()",
   "    final writer = BinaryWriter();",
   "    writer.write" ++ Text.upperCamel enum.size.name ++ "(discriminant);",
   "    final Uint8List variantBytes = variant.toBorsh();",
   opening "    for (final byte in variantBytes)",
   "      writer.writeU8(byte);",
   "    " ++ closing,
   "    return writer.toArray();",
   "  " ++ closing,
   closing,
   "",
   enum.usage]

end EnumClass

end DartClient
