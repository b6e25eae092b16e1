import DartClient.Proofs.Account.OwnData

/-!
# The width of a discriminator in a field

A discriminator may be the number that a field has as its default value. It should have the bytes
that the field has when it holds the number. The layout of the field is resolved, through links and
wrappers, while the format of the discriminator is read off the type as it is written: it is that of
a number type, also below sizes, and one byte for every other type. So amounts, dates, links to
numbers and numbers behind a size lose all bytes but one. This is seen as soon as the field has more
than one.

## Main definitions

* `Idl.TypeNode.IsNumber`: the types whose format a discriminator keeps.

## Main results

* `Resolver.bytes_eq_iff_of_u8`: when one byte is all that a field has.
* `Resolver.bytes_eq_iff_of_lays`: when a number is written like the content of its field.
* `Resolver.discriminator_eq_field_iff`: when a discriminator has the bytes of its field.
-/

namespace DartClient

open Idl (TypeNode StructField)
open Step (Writes)

/-- The type is a number, possibly of a fixed size. -/
inductive Idl.TypeNode.IsNumber : TypeNode → Prop
  | number (type : Idl.NumberType) : IsNumber (.number type)
  | fixedSize {inner : TypeNode} (size : Nat) (h : inner.IsNumber) :
    IsNumber (.fixedSize inner size)

theorem Idl.TypeNode.isNumber_fixedSize_iff {inner : TypeNode} {size : Nat} :
    (TypeNode.fixedSize inner size).IsNumber ↔ inner.IsNumber := by
  constructor
  · intro h
    cases h with
    | fixedSize _ hinner => exact hinner
  · exact .fixedSize size

theorem length_of_writes_u8 {value : Value} {bytes : List UInt8}
    (h : Writes (writeNumber .u8 value) bytes) : bytes.length = 1 := by
  rw [writeNumber, writes_unsigned_iff] at h
  obtain ⟨n, -, -, rfl⟩ := h
  exact length_littleEndian 1 n

/-- Other types than numbers have the format of one byte. -/
theorem discriminatorFormat_of_not_isNumber {node : TypeNode} (h : ¬ node.IsNumber) :
    discriminatorFormat node = .u8 := by
  fun_induction discriminatorFormat node with
  | case1 type => exact absurd (.number type) h
  | case2 inner size ih => exact ih fun hinner => h (.fixedSize size hinner)
  | case3 => rfl

namespace Resolver

variable {resolver : Resolver} {value : Value} {i : Int} {bytes part : List UInt8}

/-- One byte is all that a field has if it has no more than one. -/
theorem bytes_eq_iff_of_u8 {codec : Codec} (hvalue : value.integer? = some i)
    (hbytes : Writes (writeNumber .u8 value) bytes) (hpart : Writes (codec.write value) part) :
    bytes = part ↔ part.length = 1 := by
  have hone : bytes.length = 1 := length_of_writes_u8 hbytes
  constructor
  · rintro rfl
    exact hone
  · intro hlength
    -- The byte stands somewhere in the field, so there is nothing around it.
    obtain ⟨lead, rest, -, rfl⟩ := exists_lead_of_u8 "" hvalue hbytes hpart
    rw [List.length_append, List.length_append, hone] at hlength
    obtain rfl : lead = [] := List.length_eq_zero_iff.mp (by omega)
    obtain rfl : rest = [] := List.length_eq_zero_iff.mp (by omega)
    rw [List.nil_append, List.append_nil]

/-- **A number is written like the content of its field** if the type is a number, or if the field
has a single byte. -/
theorem bytes_eq_iff_of_lays {node : TypeNode} {codec : Codec} (h : resolver.Lays node codec)
    (hvalue : value.integer? = some i)
    (hbytes : Writes (writeNumber (discriminatorFormat node) value) bytes) : ∀ {part},
    Writes (codec.write value) part → (bytes = part ↔ node.IsNumber ∨ part.length = 1) := by
  induction h with
  | number format =>
    intro part hpart
    exact iff_of_true (hbytes.unique hpart) (.inl (.number _))
  | fixedSize size _ _ _ ih =>
    intro part hpart
    -- A fixed size adds nothing to the bytes, neither here nor there.
    obtain ⟨hinner, -⟩ := writes_fixedSize_iff.mp hpart
    rw [Idl.TypeNode.isNumber_fixedSize_iff]
    exact ih hbytes hinner
  | _ =>
    intro part hpart
    rw [or_iff_right nofun]
    exact bytes_eq_iff_of_u8 hvalue hbytes hpart

/-- **When a discriminator has the bytes of its field.** Take a discriminator that is the number
which a field has as its default value, of an account or of an instruction. It has the bytes of the
field holding this number if and only if the type of the field is a number, possibly of a fixed
size, or the field has a single byte. For all other types the discriminator is a single byte. -/
theorem discriminator_eq_field_iff {candidates : Candidates} {discriminator : Discriminator}
    {name : String} {field : StructField} {ctx : ResolveContext} {manifest : Manifest}
    {encoded : List UInt8} (h : candidates.discriminator = .ok discriminator)
    (horigin : discriminator.origin = .field name)
    (hcarrier : candidates.carrier? name = some (field, .number (.int i)))
    (hmanifest : resolver.resolve field.type ctx = .ok manifest)
    (hvalue : value.integer? = some i) (hencode : manifest.codec.encode value = .ok encoded) :
    (discriminator.bytes = encoded ↔ field.type.IsNumber ∨ encoded.length = 1) ∧
      (¬ field.type.IsNumber → discriminator.bytes.length = 1) := by
  obtain ⟨field', literal, hcarrier', hbytes⟩ := Candidates.exists_carrier h horigin
  obtain ⟨rfl, rfl⟩ := Prod.mk.inj (Option.some.inj (hcarrier.symm.trans hcarrier'))
  have hwrites : Writes (writeNumber (discriminatorFormat field.type) value) discriminator.bytes :=
    writes_of_numberBytes hvalue hbytes
  constructor
  · apply bytes_eq_iff_of_lays (lays_of_resolve hmanifest) hvalue hwrites
    exact Codec.encode_eq_ok_iff.mp hencode
  · intro hother
    rw [discriminatorFormat_of_not_isNumber hother] at hwrites
    exact length_of_writes_u8 hwrites

/-- A discriminator that is a number in a field of a given type. -/
def stampField (type : TypeNode) (number : Int) : StructField :=
  ⟨"discriminator", type, [], some (.number (.int number))⟩

/-- A number of two bytes has both of them. -/
theorem discriminator_eq_field_stamp : ∃ discriminator manifest,
    Discriminator.ofAccount (counter 0 [stampField (.fixedSize (.number ⟨.u16, .little⟩) 2) 258]) =
      .ok discriminator ∧
    linkless.resolve (.fixedSize (.number ⟨.u16, .little⟩) 2) (.root "Counter" .account) =
      .ok manifest ∧
    manifest.codec.encode (.unsigned 258) = .ok [2, 1] ∧ discriminator.bytes = [2, 1] := by
  let field := stampField (.fixedSize (.number ⟨.u16, .little⟩) 2) 258
  obtain ⟨discriminator, hdiscriminator, horigin⟩ : ∃ discriminator,
      Discriminator.ofAccount (counter 0 [field]) = .ok discriminator ∧
      discriminator.origin = .field "discriminator" := ⟨_, rfl, rfl⟩
  obtain ⟨manifest, hmanifest, hencode⟩ : ∃ manifest,
      linkless.resolve field.type (.root "Counter" .account) = .ok manifest ∧
      manifest.codec.encode (.unsigned 258) = .ok [2, 1] := ⟨_, rfl, rfl⟩
  have hcarrier : (Candidates.ofAccount (counter 0 [field])).carrier? "discriminator" =
      some (field, .number (.int 258)) := rfl
  refine ⟨discriminator, manifest, hdiscriminator, hmanifest, hencode, ?_⟩
  obtain ⟨hiff, -⟩ :=
    discriminator_eq_field_iff hdiscriminator horigin hcarrier hmanifest rfl hencode
  exact hiff.mpr (.inl (.fixedSize 2 (.number _)))

/-- An amount of eight bytes has only one of them. -/
theorem discriminator_ne_field_stamp : ∃ discriminator manifest,
    Discriminator.ofAccount (counter 0 [stampField (.amount ⟨.u64, .little⟩) 7]) =
      .ok discriminator ∧
    discriminator.origin = .field "discriminator" ∧
    linkless.resolve (.amount ⟨.u64, .little⟩) (.root "Counter" .account) = .ok manifest ∧
    manifest.codec.encode (.unsigned 7) = .ok [7, 0, 0, 0, 0, 0, 0, 0] ∧
    discriminator.bytes = [7] :=
  ⟨_, _, rfl, rfl, rfl, rfl, rfl⟩

end Resolver

end DartClient
