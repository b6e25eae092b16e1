import DartClient.Text.Base58

/-!
# Addresses

An address is 32 bytes, written in base 58.

## Main definitions

* `Address`: 32 bytes.
* `Address.parse?`, `Address.render`: from text and to text.
-/

namespace DartClient

/-- An address of an account or program. -/
structure Address where
  /-- The bytes. -/
  bytes : List UInt8
  length_bytes : bytes.length = 32
  deriving DecidableEq

namespace Address

/-- The address of 32 bytes. -/
def ofBytes? (bytes : List UInt8) : Option Address :=
  if h : bytes.length = 32 then some ⟨bytes, h⟩ else none

@[simp] theorem ofBytes?_bytes (address : Address) : ofBytes? address.bytes = some address := by
  simp [ofBytes?, address.length_bytes]

/-- The address that a text writes. -/
def parse? (text : String) : Option Address :=
  match Text.Base58.decode text with
  | .ok bytes => ofBytes? bytes
  | .error _ => none

/-- The text of an address. -/
def render (address : Address) : String := Text.Base58.encode address.bytes

end Address

end DartClient
