import DartClient.Page.Instruction
import DartClient.Proofs.Account.OwnData

/-!
# Discriminators in front of fields

The class of an account and the class of the arguments of an instruction both hold fields, and both
put the discriminator in front of them unless it is among them already. They decide this by
different tests: an account asks where the discriminator comes from, an instruction asks in
addition whether an argument is called like it. So the two differ where something is called like
the discriminator that is taken from elsewhere: the account then has it twice, in front of the
fields and among them, and the instruction once.

## Main definitions

* `AccountClass.Frames`: the class of an account puts the discriminator in front of the fields.
* `PrependsDiscriminator`: an instruction sends the discriminator in front of its arguments.
* `Candidates.origin`: where a discriminator comes from.

## Main results

* `AccountClass.frames_iff`, `AccountClass.not_frames_iff`: when an account puts it in front.
* `Resolver.prependsDiscriminator_iff`: when an instruction does.
* `Resolver.frames_iff_prepends_iff`: when the two agree on the same fields.
-/

namespace DartClient

open Idl (TypeNode ValueNode StructField Account Instruction)

/-! ## Accounts -/

namespace AccountClass

/-- The discriminator stands in front of the fields: it is cut off before they are read, counted in
the size unless one is declared, and put back when the data is written. -/
structure Frames (cls : AccountClass) : Prop where
  /-- Reading skips it. -/
  skips : RecordClass.readCall cls.name "data.sublist(DISCRIMINATOR.length)" ∈ cls.reader
  /-- The size counts it. -/
  counts : cls.size? = (cls.account.size <|> do
    checkedSize (cls.discriminator.bytes.length + (← cls.manifest.codec.fixedSize?)))
  /-- Writing puts it back. -/
  restores : "  return Uint8List.fromList([...DISCRIMINATOR, ...toBorsh()]);" ∈ cls.writer

/-- The data is nothing but the fields: all of it is read, counted and written as it is. -/
structure Unframed (cls : AccountClass) : Prop where
  /-- Reading takes all. -/
  reads : RecordClass.readCall cls.name "data" ∈ cls.reader
  /-- The size is that of the layout. -/
  counts : cls.size? = (cls.account.size <|> cls.manifest.codec.fixedSize?)
  /-- Writing adds nothing. -/
  writes : "  return toBorsh();" ∈ cls.writer

variable {cls : AccountClass}

/-- An account puts the discriminator in front of the fields unless one of them carries it. -/
theorem frames_iff : cls.Frames ↔ cls.isFramed = true := by
  constructor
  · intro h
    by_contra hframed
    have hrestores := h.restores
    rw [Bool.not_eq_true] at hframed
    rw [writer, hframed] at hrestores
    revert hrestores
    decide
  · intro h
    refine ⟨?_, ?_, ?_⟩
    · simp [reader, h]
    · simp [size?, h]
    · simp [writer, h]

theorem unframed_iff : cls.Unframed ↔ cls.isFramed = false := by
  constructor
  · intro h
    by_contra hframed
    have hwrites := h.writes
    rw [Bool.not_eq_false] at hframed
    rw [writer, hframed] at hwrites
    revert hwrites
    decide
  · intro h
    refine ⟨?_, ?_, ?_⟩
    · simp [reader, h]
    · simp [size?, h]
    · simp [writer, h]

/-- The data is framed or taken as it is; there is no third case. -/
theorem not_frames_iff : ¬ cls.Frames ↔ cls.Unframed := by
  rw [frames_iff, unframed_iff, Bool.not_eq_true]

end AccountClass

/-! ## Instructions -/

/-- The data of an instruction begins with the discriminator, which is none of the arguments: it is
a field of its own in front of them, or all the data there is if there are no arguments. -/
def PrependsDiscriminator (instruction : Instruction) (discriminator : Discriminator) :
    Option ArgumentClass → Prop
  | some cls => cls.record.fields = discriminatorManifest discriminator :: cls.arguments
  | none => ∀ accounts program,
    (⟨instruction, accounts, program, discriminator.bytes⟩ : Builder).dataLine =
      "  final " ++ Builder.dataVariable ++ " = ByteArray(" ++
        byteListLiteral discriminator.bytes ++ ");"

/-- A class of arguments has a field of its own for the discriminator if no argument is one. -/
theorem ArgumentClass.isFramed_iff {cls : ArgumentClass} :
    cls.isFramed = true ↔ ∀ field ∈ cls.arguments, field.carries cls.discriminator = false := by
  simp [isFramed]

theorem ArgumentClass.fields_eq_cons_iff {cls : ArgumentClass} :
    cls.record.fields = discriminatorManifest cls.discriminator :: cls.arguments ↔
      cls.isFramed = true := by
  show cls.fields = _ ↔ _
  unfold fields
  constructor
  · intro h
    by_contra hframed
    -- Without a field of its own the class has just the arguments, which are one field less.
    rw [if_neg hframed] at h
    have hlength := congrArg List.length h
    rw [List.length_cons] at hlength
    omega
  · intro h
    rw [if_pos h]

theorem FieldManifest.carries_eq_false_iff {field : FieldManifest}
    {discriminator : Discriminator} : field.carries discriminator = false ↔
      field.sourceName ≠ discriminatorField ∧
        discriminator.field? ≠ some field.sourceName := by
  simp [carries]

namespace Resolver

variable {resolver resolver' : Resolver} {instruction : Instruction}
  {discriminator : Discriminator} {built : Option ArgumentClass}

/-- The class of the arguments is there unless there are no arguments, and it has a field for each
of them, under its name. -/
theorem argumentClass?_spec (h : resolver.argumentClass? instruction discriminator = .ok built) :
    (instruction.arguments = [] ∧ built = none) ∨
      ∃ cls, built = some cls ∧ cls.discriminator = discriminator ∧
        cls.arguments.map FieldManifest.sourceName = instruction.arguments.map (·.name) := by
  unfold argumentClass? at h
  split at h
  case isTrue hempty =>
    obtain rfl := Except.ok.inj h
    exact .inl ⟨List.isEmpty_iff.mp hempty, rfl⟩
  case isFalse hempty =>
    obtain ⟨manifest, hmanifest, h⟩ := Resolved.bind_eq_ok_iff.mp h
    obtain rfl := Except.ok.inj h
    refine .inr ⟨_, rfl, rfl, ?_⟩
    obtain ⟨-, fields, -, hfields, hshown⟩ :=
      structManifest_spec (fun h => lays_of_resolve h) hmanifest
    have hnames := names_eq_of_forall₂ hfields
    rw [List.map_map, List.map_map] at hnames
    simp only [ArgumentClass.arguments, hshown rfl, Option.getD_some]
    exact hnames

/-- **When an instruction sends the discriminator in front of its arguments**: if none of them is
called like it, and none is the one that it was taken from. -/
theorem prependsDiscriminator_iff
    (h : resolver.argumentClass? instruction discriminator = .ok built) :
    PrependsDiscriminator instruction discriminator built ↔
      ∀ argument ∈ instruction.arguments,
        argument.name ≠ discriminatorField ∧ discriminator.field? ≠ some argument.name := by
  rcases argumentClass?_spec h with ⟨hempty, rfl⟩ | ⟨cls, rfl, rfl, hnames⟩
  · rw [hempty]
    constructor
    · intro _ argument hargument
      cases hargument
    · intro _ accounts program
      simp [Builder.dataLine, Builder.hasArguments, hempty]
  · -- The condition speaks of nothing but the names, which the fields share with the arguments.
    let Free (name : String) : Prop :=
      name ≠ discriminatorField ∧ cls.discriminator.field? ≠ some name
    have hfields : (∀ field ∈ cls.arguments, field.carries cls.discriminator = false) ↔
        ∀ name ∈ cls.arguments.map FieldManifest.sourceName, Free name := by
      simp only [FieldManifest.carries_eq_false_iff, List.forall_mem_map, Free]
    show cls.record.fields = _ ↔ _
    rw [ArgumentClass.fields_eq_cons_iff, ArgumentClass.isFramed_iff, hfields, hnames,
      List.forall_mem_map]

end Resolver

/-! ## The same fields in both places -/

namespace Candidates

/-- Where the discriminator comes from, if there is one. -/
def origin (candidates : Candidates) : DiscriminatorOrigin :=
  match candidates.constants with
  | _ :: _ => .constant
  | [] =>
    match candidates.fieldNames.findSome? candidates.carrier? with
    | some (field, _) => .field field.name
    | none => .hash

variable {candidates : Candidates} {discriminator : Discriminator}

theorem origin_eq (h : candidates.discriminator = .ok discriminator) :
    discriminator.origin = candidates.origin := by
  unfold Candidates.discriminator at h
  unfold origin
  cases hconstants : candidates.constants with
  | cons value values =>
    rw [hconstants] at h
    obtain ⟨bytes, -, h⟩ := Resolved.bind_eq_ok_iff.mp h
    rw [← Except.ok.inj h]
  | nil =>
    rw [hconstants] at h
    cases hfound : candidates.fieldNames.findSome? candidates.carrier? with
    | none =>
      rw [hfound] at h
      rw [← Except.ok.inj h]
    | some found =>
      rw [hfound] at h
      obtain ⟨bytes, -, h⟩ := Resolved.bind_eq_ok_iff.mp h
      rw [← Except.ok.inj h]

/-- Where a discriminator comes from depends on what is declared and on the fields. -/
theorem origin_congr {other : Candidates} (hdeclared : candidates.declared = other.declared)
    (hfields : candidates.fields = other.fields) : candidates.origin = other.origin := by
  obtain ⟨space, name, declared, fields⟩ := candidates
  obtain rfl := hdeclared
  obtain rfl := hfields
  rfl

/-- A discriminator is carried if one of the fields is the one it was taken from. -/
theorem isCarried_iff (h : candidates.discriminator = .ok discriminator) :
    discriminator.isCarried = true ↔
      ∃ field ∈ candidates.fields, discriminator.field? = some field.name := by
  unfold Discriminator.isCarried
  rw [Option.isSome_iff_exists]
  constructor
  · rintro ⟨name, hname⟩
    have horigin : discriminator.origin = .field name := by
      revert hname
      unfold Discriminator.field?
      cases discriminator.origin <;> simp
    obtain ⟨field, _, hcarrier, -⟩ := exists_carrier h horigin
    obtain ⟨hfind, -⟩ := carrier?_eq_some_iff.mp hcarrier
    have hfield : field.name = name := by simpa using List.find?_some hfind
    exact ⟨field, List.mem_of_find?_eq_some hfind, by rw [hname, hfield]⟩
  · rintro ⟨field, -, hname⟩
    exact ⟨field.name, hname⟩

end Candidates

namespace Resolver

variable {resolver resolver' : Resolver} {account : Account} {cls : AccountClass}

/-- **When an account puts the discriminator in front of its fields**: if it was taken from none of
them, whatever they are called. -/
theorem frames_iff_of_accountClass {fields : List StructField}
    (hfields : account.data.structFields? = some fields)
    (h : resolver.accountClass account = .ok cls) :
    cls.Frames ↔ ∀ field ∈ fields, cls.discriminator.field? ≠ some field.name := by
  obtain ⟨manifest, -, hrest⟩ := Resolved.bind_eq_ok_iff.mp h
  obtain ⟨discriminator, hdiscriminator, hresult⟩ := Resolved.bind_eq_ok_iff.mp hrest
  obtain rfl := Except.ok.inj hresult
  have hcandidates : (Candidates.ofAccount account).fields = fields := by
    rw [Candidates.ofAccount, hfields]
    rfl
  have hcarried := Candidates.isCarried_iff hdiscriminator
  rw [hcandidates] at hcarried
  rw [AccountClass.frames_iff, AccountClass.isFramed, Bool.not_eq_true', ← Bool.not_eq_true,
    hcarried]
  push Not
  rfl

/-- **When an account and an instruction with the same fields agree.** Both take the discriminator
from the same place. The account puts it in front of the fields if it was taken from none of them;
the instruction does if, besides, none of them is called like it. So they agree unless a field is
called like a discriminator that no field carries: there the account has a discriminator in front
of the field, and the instruction has not. -/
theorem frames_iff_prepends_iff {instruction : Instruction} {discriminator : Discriminator}
    {built : Option ArgumentClass} {fields : List StructField}
    (hfields : account.data.structFields? = some fields)
    (harguments : instruction.arguments.map Idl.Argument.toField = fields)
    (hdeclared : account.discriminators = instruction.discriminators)
    (hcls : resolver.accountClass account = .ok cls)
    (hdiscriminator : Discriminator.ofInstruction instruction = .ok discriminator)
    (hbuilt : resolver'.argumentClass? instruction discriminator = .ok built) :
    cls.discriminator.origin = discriminator.origin ∧
    (cls.Frames ↔ ∀ field ∈ fields, discriminator.field? ≠ some field.name) ∧
    (PrependsDiscriminator instruction discriminator built ↔
      ∀ field ∈ fields, field.name ≠ discriminatorField ∧
        discriminator.field? ≠ some field.name) ∧
    ((cls.Frames ↔ PrependsDiscriminator instruction discriminator built) ↔
      ((∃ field ∈ fields, field.name = discriminatorField) → discriminator.isCarried = true)) := by
  have horigin : cls.discriminator.origin = discriminator.origin := by
    obtain ⟨manifest, -, hrest⟩ := Resolved.bind_eq_ok_iff.mp hcls
    obtain ⟨own, hown, hresult⟩ := Resolved.bind_eq_ok_iff.mp hrest
    obtain rfl := Except.ok.inj hresult
    rw [Candidates.origin_eq hown, Candidates.origin_eq hdiscriminator]
    refine Candidates.origin_congr hdeclared ?_
    simp [Candidates.ofAccount, Candidates.ofInstruction, hfields, harguments]
  have hsame : cls.discriminator.field? = discriminator.field? := by
    rw [Discriminator.field?, horigin]
    rfl
  have hframes := frames_iff_of_accountClass hfields hcls
  rw [hsame] at hframes
  have hprepends := prependsDiscriminator_iff hbuilt
  have hcarried := Candidates.isCarried_iff hdiscriminator
  have hcandidates : (Candidates.ofInstruction instruction).fields = fields := harguments
  rw [hcandidates] at hcarried
  have hnames : (∀ argument ∈ instruction.arguments, argument.name ≠ discriminatorField ∧
      discriminator.field? ≠ some argument.name) ↔ ∀ field ∈ fields,
        field.name ≠ discriminatorField ∧ discriminator.field? ≠ some field.name := by
    rw [← harguments, List.forall_mem_map]
    rfl
  rw [hnames] at hprepends
  refine ⟨horigin, hframes, hprepends, ?_⟩
  rw [hframes, hprepends, hcarried]
  by_cases hfield : ∃ field ∈ fields, discriminator.field? = some field.name
  · -- Carried by a field, it stands in front in neither place.
    obtain ⟨field, hmem, hname⟩ := hfield
    have hfree : ¬ ∀ field ∈ fields, discriminator.field? ≠ some field.name :=
      fun h => h field hmem hname
    have hfree' : ¬ ∀ field ∈ fields, field.name ≠ discriminatorField ∧
        discriminator.field? ≠ some field.name := fun h => (h field hmem).2 hname
    exact ⟨fun _ _ => ⟨field, hmem, hname⟩, fun _ => iff_of_false hfree hfree'⟩
  · push Not at hfield
    constructor
    · rintro hagree ⟨field, hmem, hname⟩
      exact absurd hname (hagree.mp hfield field hmem).1
    · intro hcalled
      refine ⟨fun _ field hmem => ⟨fun hname => ?_, hfield field hmem⟩, fun _ => hfield⟩
      obtain ⟨other, hother, hcarrier⟩ := hcalled ⟨field, hmem, hname⟩
      exact hfield other hother hcarrier

/-- An account with a declared constant as its discriminator. -/
def stamped (fields : List StructField) : Account :=
  { counter 0 fields with
    discriminators := [.constant (.constant (.number ⟨.u8, .little⟩) (.number (.int 3))) 0] }

/-- An instruction with fields as its arguments and the same discriminator. -/
def stamping (fields : List StructField) : Instruction where
  name := "count"
  docs := []
  accounts := []
  arguments := fields.map fun field => ⟨field.name, field.type, field.docs, field.defaultValue⟩
  discriminators := (stamped fields).discriminators

/-- A counter and the instruction that counts both put the constant in front of the count. -/
theorem frames_iff_prepends_counter : ∃ cls built,
    linkless.accountClass (stamped [countField]) = .ok cls ∧
    linkless.argumentClass? (stamping [countField]) ⟨[3], .constant⟩ = .ok built ∧
    (cls.Frames ↔ PrependsDiscriminator (stamping [countField]) ⟨[3], .constant⟩ built) := by
  have hcls : ∃ cls, linkless.accountClass (stamped [countField]) = .ok cls := ⟨_, rfl⟩
  have hbuilt : ∃ built, linkless.argumentClass? (stamping [countField]) ⟨[3], .constant⟩ =
    .ok built := ⟨_, rfl⟩
  have hdiscriminator : Discriminator.ofInstruction (stamping [countField]) =
    .ok ⟨[3], .constant⟩ := rfl
  have hfields : (stamped [countField]).data.structFields? = some [countField] := rfl
  obtain ⟨cls, hcls⟩ := hcls
  obtain ⟨built, hbuilt⟩ := hbuilt
  obtain ⟨-, -, -, hagree⟩ :=
    frames_iff_prepends_iff hfields rfl rfl hcls hdiscriminator hbuilt
  refine ⟨cls, built, hcls, hbuilt, hagree.mpr ?_⟩
  rintro ⟨field, hmem, hname⟩
  obtain rfl := List.mem_singleton.mp hmem
  exact absurd hname (by decide)

/-- A field called like the discriminator, with no default value. -/
def plainTagField : StructField := ⟨"discriminator", .number ⟨.u8, .little⟩, [], none⟩

/-- Where a field is called like a discriminator that is a declared constant, the account puts the
constant in front of it and the instruction does not. -/
theorem frames_and_not_prepends_stamped : ∃ cls built,
    linkless.accountClass (stamped [plainTagField]) = .ok cls ∧
    Discriminator.ofInstruction (stamping [plainTagField]) = .ok cls.discriminator ∧
    linkless.argumentClass? (stamping [plainTagField]) cls.discriminator = .ok built ∧
    cls.Frames ∧ ¬ PrependsDiscriminator (stamping [plainTagField]) cls.discriminator built := by
  have hcls : ∃ cls, linkless.accountClass (stamped [plainTagField]) = .ok cls ∧
    cls.discriminator = ⟨[3], .constant⟩ := ⟨_, rfl, rfl⟩
  have hbuilt : ∃ built, linkless.argumentClass? (stamping [plainTagField]) ⟨[3], .constant⟩ =
    .ok built := ⟨_, rfl⟩
  obtain ⟨cls, hcls, hdiscriminator⟩ := hcls
  obtain ⟨built, hbuilt⟩ := hbuilt
  rw [← hdiscriminator] at hbuilt
  refine ⟨cls, built, hcls, ?_, hbuilt, ?_, fun hprepends => ?_⟩
  · rw [hdiscriminator]
    rfl
  · rw [AccountClass.frames_iff, AccountClass.isFramed, hdiscriminator]
    rfl
  · have hfree := (prependsDiscriminator_iff hbuilt).mp hprepends
    exact (hfree ⟨"discriminator", .number ⟨.u8, .little⟩, [], none⟩ List.mem_cons_self).1 rfl

end Resolver

end DartClient
