import DartClient.Seed.Resolve
import DartClient.Settings
import DartClient.Source.Builder

/-!
# Defaults of instruction accounts

How the builder of an instruction fills in the accounts that the caller leaves out. An address is
derived only if every seed comes from accounts of the same instruction, from literals or from the
program, and if every such account is known by then: derived addresses are computed last, in the
order of the accounts.

## Main definitions

* `isReachable`: whether the accounts that seeds refer to are known in time.
* `Resolver.accountDefault`: the default of an account.
* `Resolver.builderAccounts`: the accounts of an instruction with their defaults.
-/

namespace DartClient

open Idl (Instruction InstructionAccount InputValue PdaReference PdaValue Pda)

/-- Whether an account is declared to default to a derived address. -/
def Idl.InstructionAccount.declaresPda (account : InstructionAccount) : Bool :=
  match account.defaultValue with
  | some (.pda _) => true
  | _ => false

/-- Whether the account of a name is known when the account at a position is derived: it stands
in front of it, or it is not itself declared to be derived. -/
def isKnownAt (accounts : List InstructionAccount) (index : Nat) (name : String) : Bool :=
  match accounts.findIdx? (·.name == name) with
  | none => false
  | some other =>
    other < index ||
      (index < other && (accounts[other]?.map fun account => !account.declaresPda).getD false)

/-- Whether the accounts that seeds refer to are known when the account at a position is
derived. -/
def isReachable (accounts : List InstructionAccount) (index : Nat) (seeds : List Seed) : Bool :=
  seeds.all fun
    | .account name => isKnownAt accounts index name
    | _ => true

/-- The default of an account for which nothing usable is declared. -/
def undeclaredDefault (settings : Settings) (account : InstructionAccount) : AccountDefault :=
  match settings.builtinProgram? account.name with
  | some address => .address address
  | none => if account.isOptional then .absent else .none

namespace Resolver

/-- The derived address that a default refers to. -/
def referredPda (resolver : Resolver) (account : String) : PdaReference → Resolved Pda
  | .inline pda => .ok pda
  | .link name =>
    match resolver.dictionary.pda? resolver.program name with
    | some pda => .ok pda
    | none => .error (.missingPda account name)

/-- The default of the account at a position that is declared to be derived. -/
def derivedDefault (resolver : Resolver) (accounts : List InstructionAccount) (index : Nat)
    (account : String) (value : PdaValue) : Resolved AccountDefault := do
  let pda ← resolver.referredPda account value.pda
  let derivation ← resolver.resolveSeeds pda value.seeds
  derivation.checkLimits
  if let some program := pda.programId then
    let _ ← Idl.readAddress program pda.name
  if derivation.isAutomatic && isReachable accounts index derivation.seeds then
    return .derived derivation pda.programId
  else return .none

/-- The default of the account at a position. -/
def accountDefault (resolver : Resolver) (settings : Settings)
    (accounts : List InstructionAccount) (index : Nat) (account : InstructionAccount) :
    Resolved AccountDefault :=
  match account.defaultValue with
  | some (.pda value) => resolver.derivedDefault accounts index account.name value
  | some (.publicKey key) => do
    let _ ← Idl.readAddress key account.name
    return .address key
  | some .programId => .ok .programId
  | _ => .ok (undeclaredDefault settings account)

/-- The accounts from a position on with their defaults. -/
def builderAccountsFrom (resolver : Resolver) (settings : Settings)
    (accounts : List InstructionAccount) (index : Nat) :
    List InstructionAccount → Resolved (List BuilderAccount)
  | [] => .ok []
  | account :: rest => do
    let default ← resolver.accountDefault settings accounts index account
    return ⟨account, default⟩ ::
      (← resolver.builderAccountsFrom settings accounts (index + 1) rest)

/-- The accounts of an instruction with their defaults. -/
def builderAccounts (resolver : Resolver) (settings : Settings) (instruction : Instruction) :
    Resolved (List BuilderAccount) :=
  resolver.builderAccountsFrom settings instruction.accounts 0 instruction.accounts

end Resolver

end DartClient
