import DartClient.Address.Derived
import DartClient.Literal
import DartClient.Seed.Encoding

/-!
# Seeds

The seeds of a derived address, once it is known where each comes from. They can be evaluated on
given addresses and values, and written as expressions of generated code. One more seed, the bump,
is appended when the address is derived, so there is room for fifteen others.

## Main definitions

* `Seed`: where a seed comes from, with `Seed.evaluate` and `Seed.expression`.
* `Derivation`: the seeds of an address.
* `Derivation.checkLimits`: the limits that hold whatever the inputs are.
* `Derivation.seedBytes`, `Derivation.find`: the seeds and the address for given inputs.
-/

namespace DartClient

/-- Where a seed comes from. -/
inductive Seed where
  /-- A text. -/
  | utf8 (text : String)
  /-- Bytes. -/
  | bytes (data : List UInt8)
  /-- The address of the program. -/
  | programId
  /-- The address of an account of the instruction. -/
  | account (name : String)
  /-- An argument of the instruction. -/
  | argument (name : String) (encoding : SeedEncoding)
  /-- A value that the caller has to give. -/
  | parameter (name : String) (encoding : SeedEncoding)

/-- What an expression for a seed refers to. -/
inductive SeedVariable where
  /-- An account of the instruction. -/
  | account (name : String)
  /-- An argument of the instruction. -/
  | argument (name : String)
  /-- A value that the caller has to give. -/
  | parameter (name : String)
  deriving DecidableEq, Repr

/-- The addresses and values that seeds are evaluated on. -/
structure SeedInputs where
  /-- The address of the program. -/
  program : Address
  /-- The addresses of accounts. -/
  accounts : String → Option Address
  /-- The values of arguments and parameters. -/
  values : String → Option Value

namespace Seed

/-- What a seed refers to, if it refers to anything. -/
def reference? : Seed → Option SeedVariable
  | utf8 _ | bytes _ | programId => none
  | account name => some (.account name)
  | argument name _ => some (.argument name)
  | parameter name _ => some (.parameter name)

/-- The expression for a seed, given those for the program and for what it refers to. -/
def expression (seed : Seed) (program : String) (spell : SeedVariable → String) : String :=
  match seed with
  | utf8 text => "utf8.encode('" ++ escapeText text ++ "')"
  | bytes data => byteListLiteral data
  | programId => program ++ ".bytes"
  | account name => spell (.account name) ++ ".bytes"
  | argument name encoding => encoding.expression (spell (.argument name))
  | parameter name encoding => encoding.expression (spell (.parameter name))

/-- What the expression for a seed needs to import. -/
def imports : Seed → ImportMap
  | utf8 _ => ImportMap.empty.add convertModule ["utf8"]
  | bytes _ => ImportMap.empty.add typedDataModule ["Uint8List"]
  | programId | account _ => .empty
  | argument _ encoding | parameter _ encoding => encoding.imports

/-- The bytes of an argument or parameter. -/
def evaluateValue (inputs : SeedInputs) (name : String) (encoding : SeedEncoding) :
    Except ClientError (List UInt8) :=
  match inputs.values name with
  | some value => encoding.encode value name
  | none => .error (.missingSeedInput name)

/-- The bytes of a seed. -/
def evaluate (inputs : SeedInputs) : Seed → Except ClientError (List UInt8)
  | utf8 text => .ok (Text.Utf8.encode text)
  | bytes data => .ok data
  | programId => .ok inputs.program.bytes
  | account name =>
    match inputs.accounts name with
    | some address => .ok address.bytes
    | none => .error (.missingSeedInput name)
  | argument name encoding | parameter name encoding => evaluateValue inputs name encoding

/-- The length of a seed that is known before it is evaluated. -/
def literalLength? : Seed → Option Nat
  | utf8 text => some text.utf8ByteSize
  | bytes data => some data.length
  | programId | account _ | argument _ _ | parameter _ _ => none

end Seed

/-- A value that a function of generated code takes for a seed. -/
structure SeedParameter where
  /-- The name. -/
  name : String
  /-- The type in the generated code. -/
  targetType : String
  /-- How the value turns into bytes. -/
  encoding : SeedEncoding

/-- How an address is derived. -/
structure Derivation where
  /-- The name of the address. -/
  name : String
  /-- The seeds, in order. -/
  seeds : List Seed
  /-- The values that the caller has to give, in order. -/
  parameters : List SeedParameter
  /-- Whether accounts, literals and the program are enough to derive the address. -/
  isAutomatic : Bool

namespace Derivation

/-- Checks that there is room for the bump seed. -/
def checkCount (derivation : Derivation) : Except ClientError Unit :=
  if maxSeeds ≤ derivation.seeds.length then .error (.tooManySeeds derivation.seeds.length)
  else .ok ()

/-- Checks the length of the seed at a position. -/
def checkLength (derivation : Derivation) (position length : Nat) : Except ClientError Unit :=
  if maxSeedLength < length then
    .error (.seedTooLong (derivation.name ++ "[" ++ toString position ++ "]") length)
  else .ok ()

/-- Checks the seeds whose length is known. -/
def checkLiterals (derivation : Derivation) : Nat → List Seed → Except ClientError Unit
  | _, [] => .ok ()
  | position, seed :: seeds => do
    if let some length := seed.literalLength? then derivation.checkLength position length
    derivation.checkLiterals (position + 1) seeds

/-- Checks the limits that hold whatever the inputs are. -/
def checkLimits (derivation : Derivation) : Except ClientError Unit := do
  derivation.checkCount
  derivation.checkLiterals 0 derivation.seeds

/-- The bytes of seeds, the first of which stands at a position. -/
def evaluateFrom (derivation : Derivation) (inputs : SeedInputs) :
    Nat → List Seed → Except ClientError (List (List UInt8))
  | _, [] => .ok []
  | position, seed :: seeds => do
    let bytes ← seed.evaluate inputs
    derivation.checkLength position bytes.length
    return bytes :: (← derivation.evaluateFrom inputs (position + 1) seeds)

/-- The bytes of the seeds. -/
def seedBytes (derivation : Derivation) (inputs : SeedInputs) :
    Except ClientError (List (List UInt8)) := do
  derivation.checkCount
  derivation.evaluateFrom inputs 0 derivation.seeds

/-- The derived address, and its bump seed. -/
def find (derivation : Derivation) (inputs : SeedInputs) :
    Except ClientError (Address × UInt8) := do
  let seeds ← derivation.seedBytes inputs
  match Address.find? seeds inputs.program with
  | some found => .ok found
  | none => .error (.noViableBump derivation.name)

/-- What the expressions for the seeds need to import. -/
def imports (derivation : Derivation) : ImportMap :=
  .merged (derivation.seeds.map Seed.imports)

/-- The expressions for the seeds, in order. -/
def expressions (derivation : Derivation) (program : String) (spell : SeedVariable → String) :
    List String :=
  derivation.seeds.map (·.expression program spell)

end Derivation

end DartClient
