import DartClient.Page.Basic
import DartClient.Settings

/-!
# Pages of the package

What every package has: the page with the encoders of numbers, the page that exports all others,
and the description of the package.

## Main definitions

* `encoderPage`: the encoders of numbers.
* `libraryIndex`: the page that exports all others.
* `pubspec`: the description of the package.
-/

namespace DartClient

open Idl (NumberFormat)

/-! ## Encoders -/

/-- The function that writes a number through a view of some bytes. -/
def fixedWriter : List String :=
  [opening "Uint8List _fixed(int width, void Function(ByteData data) write)",
   "  final data = ByteData(width);",
   "  write(data);",
   "  return data.buffer.asUint8List();",
   closing]

/-- The function that writes a number of any width. -/
def wideWriter : List String :=
  [opening "Uint8List _wide(BigInt value, int width)",
   "  var remaining = value.toUnsigned(width * 8);",
   "  final bytes = Uint8List(width);",
   opening "  for (var i = 0; i < width; i++)",
   "    bytes[i] = (remaining & BigInt.from(0xff)).toInt();",
   "    remaining = remaining >> 8;",
   "  " ++ closing,
   "  return bytes;",
   closing]

/-- The method of a view of bytes that sets a number, and the type of the number. -/
def viewSetter : NumberFormat → String × String
  | .u8 => ("int", "setUint8")
  | .u16 => ("int", "setUint16")
  | .u32 => ("int", "setUint32")
  | .i8 => ("int", "setInt8")
  | .i16 => ("int", "setInt16")
  | .i32 => ("int", "setInt32")
  | .f32 => ("double", "setFloat32")
  | _ => ("double", "setFloat64")

/-- The encoder of numbers of a fixed width. -/
def fixedEncoder (format : NumberFormat) : String :=
  let width := format.byteWidth?.getD 0
  let head (type : String) := "Uint8List " ++ encoderName format ++ "(" ++ type ++ " value) => "
  if format.isWideInteger then head "BigInt" ++ "_wide(value, " ++ toString width ++ ");"
  else
    let (type, setter) := viewSetter format
    let order := if width = 1 then "" else ", Endian.little"
    head type ++ "_fixed(" ++ toString width ++ ", (data) => data." ++ setter ++ "(0, value" ++
      order ++ "));"

/-- The encoder of numbers of seven bits a byte. -/
def shortEncoder : List String :=
  [opening ("Uint8List " ++ encoderName .shortU16 ++ "(int value)"),
   "  final bytes = <int>[];",
   "  var remaining = value;",
   opening "  while (true)",
   "    final byte = remaining & 0x7f;",
   "    remaining >>= 7;",
   opening "    if (remaining == 0)",
   "      bytes.add(byte);",
   "      return Uint8List.fromList(bytes);",
   "    " ++ closing,
   "    bytes.add(byte | 0x80);",
   "  " ++ closing,
   closing]

/-- The page with the encoders of numbers. -/
def encoderPage : Page :=
  .ofSource encoderModule (ImportMap.empty.add typedDataModule ["ByteData", "Endian", "Uint8List"])
    (NumberFormat.allFixed.map encoderName ++ [encoderName .shortU16])
    { exports := none
      part := none
      items := [.code fixedWriter, .code wideWriter] ++
        NumberFormat.allFixed.map (fun format => .code [fixedEncoder format]) ++
        [.code shortEncoder] }

/-! ## The library -/

/-- The paths that the page of the library exports: each once, in ascending order, and not the
page itself. -/
def exportedPaths (paths : List String) (own : String) : List String :=
  (Std.ExtTreeSet.ofList (paths.filter (· != own))).toList

/-- The lines of the page of the library. -/
def indexLines (exports : List String) : List String :=
  ["/// Generated Dart library for Solana program interaction;", ""] ++
  if exports.isEmpty then ["// No exports found - check your program structure"]
  else exports.map SourceFile.exportLine

/-- The page of a library, which exports the pages at some paths. -/
def libraryIndex (paths : List String) (library : String) : Page :=
  let path := library ++ ".dart"
  ⟨path, .empty, [], Text.unlines (indexLines (exportedPaths paths path))⟩

/-! ## The package -/

/-- The name of the package of a program. -/
def Settings.packageOf (settings : Settings) (program : String) : String :=
  if settings.packageName.isEmpty then Text.snake program else settings.packageName

/-- The lines of the description of a package. -/
def pubspecLines (settings : Settings) (program : String) : List String :=
  ["name: " ++ settings.packageOf program,
   "description: " ++ settings.packageDescription,
   "version: " ++ settings.packageVersion,
   "publish_to: none",
   "",
   "environment:",
   "  sdk: \">=3.0.0 <4.0.0\"",
   "",
   "dependencies:",
   "  borsh: 0.3.2",
   "  borsh_annotation_extended:",
   "    git:",
   "      url: https://github.com/vlady-kotsev/borsh_annotation_extended.git",
   "      ref: b6b2c80d3b198fc2af9fc74d78fcdc86c23ed7cd",
   "  solana: 0.31.2",
   "",
   "dev_dependencies:",
   "  build_runner: ^2.4.7",
   "  lints: ^3.0.0",
   "  test: ^1.24.0"]

/-- The description of the package of a program. -/
def pubspec (settings : Settings) (program : String) : String :=
  Text.unlines (pubspecLines settings program)

end DartClient
