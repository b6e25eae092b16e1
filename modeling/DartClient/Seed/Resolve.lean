import DartClient.Idl.Literal
import DartClient.Seed.Basic

/-!
# Resolving seeds

Where each seed of a declared address comes from. A variable seed may be bound to an account, an
argument, the program or a literal; without a binding it has to be given by the caller. Of several
bindings of one name the first counts.

## Main definitions

* `constantSeed`: the seed that a literal value gives.
* `Resolver.boundSeed`: the seed that a binding gives.
* `Resolver.resolveSeeds`: the derivation of an address.
-/

namespace DartClient

open Idl (TypeNode ValueNode InputValue SeedValue PdaSeed Pda)

/-- The seed that a literal value of a type gives. A number needs a plain number type. -/
def constantSeed (place : String) : ValueNode → TypeNode → Resolved Seed
  | .string text, _ => .ok (.utf8 text)
  | .programId, _ => .ok .programId
  | .bytes value, _ => (value.decode place).map .bytes
  | .array items, _ => (Idl.listBytes place items).map .bytes
  | .publicKey key _, _ => (Idl.readAddress key place).map fun address => .bytes address.bytes
  | .boolean value, _ => .ok (.bytes [if value then 1 else 0])
  | .number value, type =>
    match type.plainNumber? with
    | some format => (Idl.numberBytes place value format).map .bytes
    | none => .error (.unsupportedValue place "numberValueNode" (.notPlainNumber type.kind))
  | .constant type value, _ => constantSeed place value type
  | value, _ => .error (.unsupportedValue place value.kind .notSeed)

/-- The seed that the value bound to a variable seed gives. -/
def Resolver.boundSeed (resolver : Resolver) (seed : String) (type : TypeNode) :
    InputValue → Resolved Seed
  | .account name => .ok (.account name)
  | .argument name => do
    let (encoding, _) ← resolver.seedEncoding type seed
    return .argument name encoding
  | .programId => .ok .programId
  | value =>
    match value.literal? with
    | some literal => constantSeed seed literal type
    | none => .error (.unsupportedValue seed "inputValueNode" (.inputNotSeed value))

/-- A seed that has been resolved. -/
structure ResolvedSeed where
  /-- Where it comes from. -/
  seed : Seed
  /-- The value that the caller has to give for it. -/
  parameter : Option SeedParameter
  /-- Whether accounts, literals and the program are enough for it. -/
  isAutomatic : Bool

/-- The value bound to a name. -/
def boundValue? (bindings : List SeedValue) (name : String) : Option InputValue :=
  (bindings.find? (·.name == name)).map (·.value)

/-- Where a declared seed comes from; `place` is the name of the address. -/
def Resolver.resolveSeed (resolver : Resolver) (place : String) (bindings : List SeedValue) :
    PdaSeed → Resolved ResolvedSeed
  | .constant type value => do return ⟨← constantSeed place value type, none, true⟩
  | .variable name type _ =>
    match boundValue? bindings name with
    | none => do
      let (encoding, targetType) ← resolver.seedEncoding type name
      return ⟨.parameter name encoding, some ⟨name, targetType, encoding⟩, false⟩
    | some value => do
      return ⟨← resolver.boundSeed name type value, none, value.usesOnlyAccounts⟩

/-- How a declared address is derived with given bindings. -/
def Resolver.resolveSeeds (resolver : Resolver) (pda : Pda) (bindings : List SeedValue) :
    Resolved Derivation := do
  let resolved ← pda.seeds.mapM (resolver.resolveSeed pda.name bindings)
  return { name := pda.name
           seeds := resolved.map (·.seed)
           parameters := resolved.filterMap (·.parameter)
           isAutomatic := resolved.all (·.isAutomatic) }

end DartClient
