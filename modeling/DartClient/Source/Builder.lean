import DartClient.Source.Derivation

/-!
# Instruction builders

The function of generated code that makes an instruction. It takes the accounts, the arguments and
the program; what may be left out is filled in by local variables, derived addresses last.

## Main definitions

* `AccountDefault`: how an account that is left out is filled in.
* `BuilderAccount`: an account with its default.
* `Builder`: the function, with its parameters, its local variables and its `lines`.
-/

namespace DartClient

open Idl (Instruction InstructionAccount)

/-- How an account that the caller leaves out is filled in. -/
inductive AccountDefault where
  /-- It must not be left out. -/
  | none
  /-- By the program, as a mark of absence. -/
  | absent
  /-- By a given address. -/
  | address (text : String)
  /-- By the program. -/
  | programId
  /-- By a derived address, of another program where one is given. -/
  | derived (derivation : Derivation) (program : Option String)

/-- Whether an account may be left out. -/
def AccountDefault.isSome : AccountDefault → Bool
  | .none => false
  | _ => true

/-- Whether an account is filled in by a derived address. -/
def AccountDefault.isDerived : AccountDefault → Bool
  | .derived _ _ => true
  | _ => false

/-- An account of an instruction with its default. -/
structure BuilderAccount where
  /-- The account. -/
  account : InstructionAccount
  /-- How it is filled in. -/
  default : AccountDefault

/-- The local variable behind a parameter. -/
def resolvedName (name : String) : String := "resolved" ++ Text.upperCamel name

/-- The variable that holds the program. -/
def resolvedProgram : String := "resolvedProgramId"

/-- The parameter for the arguments. -/
def argumentsParameter : String := "data"

namespace BuilderAccount

/-- The parameter for the account. -/
def parameter (account : BuilderAccount) : String := memberName account.account.name

/-- The variable that holds the account once it is filled in. -/
def identifier (account : BuilderAccount) : String :=
  if account.default.isSome then resolvedName account.parameter else account.parameter

/-- The variable that holds the account of a name; of several accounts the last one. -/
def identifierOf? (accounts : List BuilderAccount) (name : String) : Option String :=
  (accounts.reverse.find? (·.account.name == name)).map identifier

/-- The expression for what a seed refers to. -/
def spell (accounts : List BuilderAccount) : SeedVariable → String
  | .account name => (identifierOf? accounts name).getD (memberName name)
  | .argument name => argumentsParameter ++ "." ++ memberName name
  | .parameter name => memberName name

end BuilderAccount

/-- A parameter of a builder. -/
structure BuilderParameter where
  /-- The lines of its documentation. -/
  docs : List String
  /-- Whether it must be given. -/
  isRequired : Bool
  /-- The type of the value. -/
  type : String
  /-- The name. -/
  name : String
  deriving DecidableEq, Repr

/-- The lines of a parameter. -/
def BuilderParameter.lines (parameter : BuilderParameter) : List String :=
  docLines parameter.docs "  " ++
  [if parameter.isRequired then "  required " ++ parameter.type ++ " " ++ parameter.name ++ ","
    else "  " ++ parameter.type ++ "? " ++ parameter.name ++ ","]

/-- The value of a local variable where its parameter is left out. -/
inductive Fallback where
  /-- An address. -/
  | address (term : AddressTerm)
  /-- A derived address. -/
  | derived (derivation : Derivation) (program : AddressTerm)

/-- A local variable that stands for a parameter. -/
structure BuilderLocal where
  /-- The name. -/
  name : String
  /-- The parameter. -/
  parameter : String
  /-- The value where the parameter is left out. -/
  fallback : Fallback

namespace BuilderAccount

/-- The local variable for an account that is filled in by an address known from the start. -/
def plainLocal? (account : BuilderAccount) : Option BuilderLocal :=
  let fill (term : AddressTerm) : Option BuilderLocal :=
    some ⟨resolvedName account.parameter, account.parameter, .address term⟩
  match account.default with
  | .none | .derived _ _ => none
  | .absent | .programId => fill (.name resolvedProgram)
  | .address text => fill (.literal text)

/-- The local variable for an account that is filled in by a derived address. -/
def derivedLocal? (account : BuilderAccount) : Option BuilderLocal :=
  match account.default with
  | .derived derivation program =>
    let program := match program with
      | some text => .literal text
      | none => .name resolvedProgram
    some ⟨resolvedName account.parameter, account.parameter, .derived derivation program⟩
  | _ => none

/-- The parameter for an account. -/
def builderParameter (account : BuilderAccount) : BuilderParameter where
  docs := account.account.docs
  isRequired := !account.default.isSome
  type := addressSymbol
  name := account.parameter

end BuilderAccount

/-- A function that makes an instruction. -/
structure Builder where
  /-- The instruction. -/
  instruction : Instruction
  /-- The accounts with their defaults, in order. -/
  accounts : List BuilderAccount
  /-- The class of the program. -/
  program : String
  /-- The bytes of an instruction without arguments. -/
  discriminator : List UInt8

namespace Builder

/-- The name of the function. -/
def name (builder : Builder) : String := instructionFunction builder.instruction.name

/-- Whether the instruction has arguments. -/
def hasArguments (builder : Builder) : Bool := !builder.instruction.arguments.isEmpty

/-- Whether the function has to wait for derived addresses. -/
def isAsync (builder : Builder) : Bool := builder.accounts.any (·.default.isDerived)

/-- The lines of documentation, with their marks. -/
def docs (builder : Builder) : List String :=
  if builder.instruction.docs.isEmpty then
    ["/// Creates a " ++ builder.instruction.name ++ " instruction"]
  else docLines builder.instruction.docs ""

/-- The parameter for the arguments. -/
def argumentParameters (builder : Builder) : List BuilderParameter :=
  if builder.hasArguments then
    [⟨[], true, instructionDataClass builder.instruction.name, argumentsParameter⟩]
  else []

/-- The parameters, in order. -/
def parameters (builder : Builder) : List BuilderParameter :=
  builder.accounts.map BuilderAccount.builderParameter ++ builder.argumentParameters ++
    [⟨[], false, addressSymbol, programVariable⟩]

/-- The local variable that holds the program. -/
def programLocal (builder : Builder) : BuilderLocal :=
  ⟨resolvedProgram, programVariable, .address (.programOf builder.program)⟩

/-- The local variables that stand for parameters, in the order in which they are set. -/
def locals (builder : Builder) : List BuilderLocal :=
  builder.programLocal ::
    (builder.accounts.filterMap BuilderAccount.plainLocal? ++
      builder.accounts.filterMap BuilderAccount.derivedLocal?)

/-- The local variable that holds the accounts. -/
def accountsVariable : String := "accounts"

/-- The local variable that holds the data. -/
def dataVariable : String := "instructionData"

/-- The names of all local variables, in order. -/
def localNames (builder : Builder) : List String :=
  builder.locals.map (·.name) ++ [accountsVariable, dataVariable]

/-- The head of the function, with its parameters. -/
def headLines (builder : Builder) : List String :=
  let type := if builder.isAsync then "Future<Instruction>" else "Instruction"
  [type ++ " " ++ builder.name ++ "(\x7b"] ++
  builder.parameters.flatMap BuilderParameter.lines ++
  [opening (if builder.isAsync then "\x7d) async" else "\x7d)")]

/-- The statement that sets a local variable. -/
def localLines (builder : Builder) (entry : BuilderLocal) : List String :=
  let head := "final " ++ entry.name ++ " = " ++ entry.parameter ++ " ??"
  match entry.fallback with
  | .address term => ["  " ++ head ++ " " ++ term.render ++ ";"]
  | .derived derivation program =>
    derivationCall (head ++ " await")
      (derivation.expressions resolvedProgram (BuilderAccount.spell builder.accounts))
      program.render

/-- An account as it stands in the instruction. -/
def accountLines (builder : Builder) (account : BuilderAccount) : List String :=
  let identifier := (BuilderAccount.identifierOf? builder.accounts account.account.name).getD ""
  ["    AccountMeta(",
   "      pubKey: " ++ identifier ++ ",",
   "      isSigner: " ++ toString account.account.isSigner.isRequired ++ ",",
   "      isWriteable: " ++ toString account.account.isWritable ++ ",",
   "    ),"]

/-- The statement that collects the accounts. -/
def accountsLines (builder : Builder) : List String :=
  if builder.accounts.isEmpty then ["  final " ++ accountsVariable ++ " = <AccountMeta>[];"]
  else
    ["  final " ++ accountsVariable ++ " = ["] ++
    builder.accounts.flatMap builder.accountLines ++
    ["  ];"]

/-- The statement that makes the data. -/
def dataLine (builder : Builder) : String :=
  let bytes := if builder.hasArguments then argumentsParameter ++ ".toBorsh()"
    else byteListLiteral builder.discriminator
  "  final " ++ dataVariable ++ " = ByteArray(" ++ bytes ++ ");"

/-- The lines of a builder. -/
def lines (builder : Builder) : List String :=
  builder.docs ++ builder.headLines ++
  builder.locals.flatMap builder.localLines ++
  [""] ++
  builder.accountsLines ++
  [builder.dataLine,
   "",
   "  return Instruction(",
   "    programId: " ++ resolvedProgram ++ ",",
   "    accounts: " ++ accountsVariable ++ ",",
   "    data: " ++ dataVariable ++ ",",
   "  );",
   closing]

end Builder

end DartClient
