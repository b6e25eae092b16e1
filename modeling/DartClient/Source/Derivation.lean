import DartClient.Seed.Basic
import DartClient.Source.Class

/-!
# Derivations in generated code

The expressions for addresses, and the helper function that derives an address from the values of
its variable seeds.

## Main definitions

* `AddressTerm`: expressions for addresses.
* `derivationCall`: the call that derives an address.
* `DerivationHelper`: the helper function.
-/

namespace DartClient

/-- The symbol of addresses. -/
def addressSymbol : String := "Ed25519HDPublicKey"

/-- An expression for an address. -/
inductive AddressTerm where
  /-- An address written as a text. -/
  | literal (text : String)
  /-- The address of the program of a class. -/
  | programOf (className : String)
  /-- The value of a variable. -/
  | name (identifier : String)
  deriving DecidableEq, Repr

/-- The text of an expression for an address. -/
def AddressTerm.render : AddressTerm → String
  | literal text => addressSymbol ++ ".fromBase58('" ++ text ++ "')"
  | programOf className => addressSymbol ++ ".fromBase58(" ++ className ++ ".programId)"
  | name identifier => identifier

/-- The call that derives an address from seeds, behind the beginning of a statement. -/
def derivationCall (head : String) (seeds : List String) (program : String) : List String :=
  ["  " ++ head ++ " " ++ addressSymbol ++ ".findProgramAddress(",
   "    seeds: ["] ++
  seeds.map (fun seed => "      " ++ seed ++ ",") ++
  ["    ],",
   "    programId: " ++ program ++ ",",
   "  );"]

/-- A function that derives an address from the values of its variable seeds. -/
structure DerivationHelper where
  /-- The name. -/
  name : String
  /-- The lines of its documentation. -/
  docs : List String
  /-- The deriving program. -/
  program : AddressTerm
  /-- How the address is derived. -/
  derivation : Derivation

/-- The variable that holds the deriving program. -/
def programVariable : String := "programId"

/-- The parameter for a seed, other than the variable that holds the program. -/
def seedParameterName (seed : String) : String :=
  let name := memberName seed
  if name = programVariable then name ++ "Seed" else name

namespace DerivationHelper

/-- The parameter that a seed refers to. -/
def spell : SeedVariable → String
  | .account name | .argument name | .parameter name => seedParameterName name

/-- The head of the function, with its parameters. -/
def headLines (helper : DerivationHelper) : List String :=
  let head := "Future<" ++ addressSymbol ++ "> " ++ helper.name ++ "("
  if helper.derivation.parameters.isEmpty then [opening (head ++ ") async")]
  else
    [head ++ "\x7b"] ++
    helper.derivation.parameters.map (fun parameter =>
      "  required " ++ parameter.targetType ++ " " ++ seedParameterName parameter.name ++ ",") ++
    [opening "\x7d) async"]

/-- The lines of a helper function. -/
def lines (helper : DerivationHelper) : List String :=
  docLines helper.docs "" ++ helper.headLines ++
  ["  final " ++ programVariable ++ " = " ++ helper.program.render ++ ";"] ++
  derivationCall "return" (helper.derivation.expressions programVariable spell) programVariable ++
  [closing]

end DerivationHelper

end DartClient
