import DartClient.Address.Basic
import DartClient.Address.Edwards25519
import DartClient.Address.Sha256

/-!
# Derived addresses

The address that a program derives from seeds is the hash of the seeds, the address of the program
and a marker, provided that it is not a point of the curve. A bump seed behind the given seeds is
counted down from 255 until this is so.

## Main definitions

* `Address.create?`: the address of given seeds.
* `Address.find?`: the first address with a bump seed.
-/

namespace DartClient

/-- The greatest length of a seed. -/
def maxSeedLength : Nat := 32

/-- The greatest number of seeds, the bump seed included. -/
def maxSeeds : Nat := 16

/-- Why no address is created from seeds. -/
inductive DerivationFault where
  /-- There are too many seeds, or one of them is too long. -/
  | limit
  /-- The hash is a point of the curve. -/
  | onCurve
  deriving DecidableEq, Repr

namespace Address

/-- What the hash of a derived address ends with. -/
def derivationMarker : List UInt8 := Text.Utf8.encode "ProgramDerivedAddress"

/-- The hash of seeds, a program and the marker. -/
def derivationHash (seeds : List (List UInt8)) (program : Address) : List UInt8 :=
  Sha256.hash (seeds.flatten ++ program.bytes ++ derivationMarker)

/-- The address that a program derives from seeds. -/
def create? (seeds : List (List UInt8)) (program : Address) : Except DerivationFault Address :=
  if maxSeeds < seeds.length ∨ ∃ seed ∈ seeds, maxSeedLength < seed.length then .error .limit
  else
    let bytes := derivationHash seeds program
    if Edwards25519.isPoint bytes then .error .onCurve
    else .ok ⟨bytes, Sha256.length_hash _⟩

/-- The first address with a bump seed from `bump` down to one; the search ends at any fault but
a point of the curve. -/
def findFrom? (seeds : List (List UInt8)) (program : Address) : Nat → Option (Address × UInt8)
  | 0 => none
  | bump + 1 =>
    match create? (seeds ++ [[UInt8.ofNat (bump + 1)]]) program with
    | .ok address => some (address, UInt8.ofNat (bump + 1))
    | .error .onCurve => findFrom? seeds program bump
    | .error .limit => none

/-- The derived address with the greatest bump seed. -/
def find? (seeds : List (List UInt8)) (program : Address) : Option (Address × UInt8) :=
  findFrom? seeds program 255

end Address

end DartClient
