import DartClient.Idl.Shown
import DartClient.Text.Base58
import DartClient.Text.Base64
import DartClient.Text.Hex
import DartClient.Wire.Error

/-!
# Why a client cannot be generated

Each cause is a constructor, and the wording stands in one function for each type of cause.

## Main definitions

* `ClientError`: the causes, with `ClientError.message`.
* `TypeFault`, `ValueFault`, `BytesFault`: what is wrong with a type, a value or a text of bytes.
-/

namespace DartClient

open Idl (InputValue)

/-- What is wrong with a type. -/
inductive TypeFault where
  /-- It is nested too deep. -/
  | tooDeep
  /-- A number has its most significant byte first. -/
  | bigEndian
  /-- A text is not in UTF-8. -/
  | notUtf8
  /-- Its layout has no annotation. -/
  | inexpressible
  /-- It is no type of a seed. -/
  | notSeed
  deriving DecidableEq, Repr

/-- The wording of a fault of a type. -/
def TypeFault.message : TypeFault → String
  | tooDeep => "type nesting is too deep"
  | bigEndian => "big endian numbers are not Borsh encodable"
  | notUtf8 => "only utf8 strings are supported"
  | inexpressible => "the layout it describes cannot be expressed with Borsh annotations"
  | notSeed => "this type cannot be used as a PDA seed"

/-- What is wrong with a value. -/
inductive ValueFault where
  /-- An item of a list of bytes is no number. -/
  | notNumber
  /-- An item of a list of bytes is no byte. -/
  | notByte (number : Json.Number)
  /-- A number is no integer. -/
  | notInteger (number : Json.Number)
  /-- It is no value of a discriminator. -/
  | notDiscriminator
  /-- It is no value of a seed. -/
  | notSeed
  /-- It is a number, but its type, which is of this kind, is no plain number. -/
  | notPlainNumber (kind : String)
  /-- It is an input value that gives no seed. -/
  | inputNotSeed (value : InputValue)

/-- The wording of a fault of a value. -/
def ValueFault.message : ValueFault → String
  | notNumber => "byte arrays may only contain numbers"
  | notByte number => "`" ++ number.render ++ "` is not a byte"
  | notInteger number => "`" ++ number.render ++ "` is not an integer"
  | notDiscriminator => "discriminators must be bytes, byte arrays, strings or numbers"
  | notSeed => "this value cannot be used as a PDA seed"
  | notPlainNumber kind => "number seeds need a little endian number type, got `" ++ kind ++ "`"
  | inputNotSeed value => value.shown ++ " cannot provide a PDA seed"

/-- What is wrong with a text of bytes, by its encoding. -/
inductive BytesFault where
  | base16 (fault : Text.Hex.Fault)
  | base58 (fault : Text.Base58.Fault)
  | base64 (fault : Text.Base64.Fault)
  deriving DecidableEq, Repr

/-- The name of the encoding. -/
def BytesFault.encoding : BytesFault → String
  | base16 _ => "base16"
  | base58 _ => "base58"
  | base64 _ => "base64"

/-- The wording of a fault of a text of bytes. -/
def BytesFault.message : BytesFault → String
  | base16 fault => fault.message
  | base58 fault => fault.message
  | base64 fault => fault.message

/-- Why a client, or a part of it, cannot be generated. -/
inductive ClientError where
  /-- A type cannot be used at a place. -/
  | unsupportedType (place kind : String) (fault : TypeFault)
  /-- A value cannot be used at a place. -/
  | unsupportedValue (place kind : String) (fault : ValueFault)
  /-- A link names a type that is not declared. -/
  | unresolvedType (place name : String)
  /-- Something was to be generated outside of any program. -/
  | missingProgram (place : String)
  /-- The default of an account links to a derived address that is not declared. -/
  | missingPda (account pda : String)
  /-- A text of bytes cannot be read. -/
  | invalidBytes (place : String) (fault : BytesFault)
  /-- A text is no address. -/
  | invalidAddress (place value : String)
  /-- A seed has no value. -/
  | missingSeedInput (seed : String)
  /-- A seed is too long. -/
  | seedTooLong (seed : String) (length : Nat)
  /-- There are too many seeds. -/
  | tooManySeeds (count : Nat)
  /-- No bump seed gives an address. -/
  | noViableBump (pda : String)
  /-- A value cannot be written or read. -/
  | wire (error : WireError)
  /-- A value does not go with the encoding of a seed, which is named. -/
  | seedMismatch (seed : String) (value : Value) (encoding : String)

/-- The wording of an error. -/
def ClientError.message : ClientError → String
  | unsupportedType place kind fault =>
    "unsupported type `" ++ kind ++ "` at `" ++ place ++ "`: " ++ fault.message
  | unsupportedValue place kind fault =>
    "unsupported value `" ++ kind ++ "` at `" ++ place ++ "`: " ++ fault.message
  | unresolvedType place name =>
    "defined type `" ++ name ++ "` referenced at `" ++ place ++
      "` is not declared by the program"
  | missingProgram place => "`" ++ place ++ "` was visited outside of any program"
  | missingPda account pda => "missing PDA `" ++ pda ++ "` for account `" ++ account ++ "`"
  | invalidBytes place fault =>
    "invalid " ++ fault.encoding ++ " bytes at `" ++ place ++ "`: " ++ fault.message
  | invalidAddress place value => "invalid address `" ++ value ++ "` at `" ++ place ++ "`"
  | missingSeedInput seed => "missing value for seed `" ++ seed ++ "`"
  | seedTooLong seed length =>
    "seed `" ++ seed ++ "` is " ++ toString length ++ " bytes, the maximum is 32"
  | tooManySeeds count =>
    toString count ++ " seeds were provided, at most 15 fit next to the bump seed"
  | noViableBump pda => "no viable bump seed for PDA `" ++ pda ++ "`"
  | wire error => "codec error at `" ++ error.place ++ "`: " ++ error.reason
  | seedMismatch seed value encoding =>
    "codec error at `" ++ seed ++ "`: value " ++ value.render ++
      " does not match the seed encoding " ++ encoding

end DartClient
