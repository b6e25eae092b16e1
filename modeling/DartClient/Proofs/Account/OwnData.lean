import DartClient.Page.Data
import DartClient.Proofs.Manifest.Layout
import DartClient.Proofs.Wire.Leading

/-!
# Accounts and their own data

The class of an account checks that data begins with the discriminator. Where a field carries the
discriminator, the class writes no more than its fields, so the check passes if the discriminator
comes first of all. It stands where the field stands: behind the fields before it, and behind the
sizes in front of the data and of the field. The offset that is declared plays no part.

## Main definitions

* `Idl.ValueNode.Holds`: the values that a literal stands for.

## Main results

* `Candidates.exists_carrier`: the field that carries a discriminator has it as its default value.
* `Resolver.exists_lead_of_lays`: where the discriminator stands in a field that holds it.
* `Resolver.discriminator_prefix_iff`: when a class accepts its own data.
-/

namespace DartClient

open Idl (TypeNode ValueNode StructField NumberFormat BytesValue)
open Step (Writes)

/-- The value is the integer of a number or the bytes of a text of bytes. -/
inductive Idl.ValueNode.Holds : ValueNode → Value → Prop
  | number {i : Int} {value : Value} (h : value.integer? = some i) : Holds (.number (.int i)) value
  | bytes {text : BytesValue} {data : List UInt8} {place : String}
      (h : text.decode place = .ok data) : Holds (.bytes text) (.bytes data)

/-! ## The field that carries a discriminator -/

namespace Candidates

variable {candidates : Candidates} {name : String}

theorem carrier?_eq_some_iff {field : StructField} {literal : ValueNode} :
    candidates.carrier? name = some (field, literal) ↔
      candidates.fields.find? (·.name == name) = some field ∧
        field.defaultValue = some literal := by
  unfold carrier?
  cases candidates.fields.find? (·.name == name) with
  | none => simp
  | some other =>
    cases hdefault : other.defaultValue with
    | none => simp [hdefault]; grind
    | some value => simp [hdefault]; grind

/-- The field that carries a discriminator has it as its default value. -/
theorem exists_carrier {discriminator : Discriminator}
    (h : candidates.discriminator = .ok discriminator)
    (horigin : discriminator.origin = .field name) : ∃ field literal,
      candidates.carrier? name = some (field, literal) ∧
        discriminatorBytes candidates.place literal (some field.type) =
          .ok discriminator.bytes := by
  unfold Candidates.discriminator at h
  split at h
  -- A declared constant is no field.
  · obtain ⟨bytes, -, hresult⟩ := Resolved.bind_eq_ok_iff.mp h
    obtain rfl := Except.ok.inj hresult
    cases horigin
  · split at h
    · rename_i field literal hfound
      obtain ⟨bytes, hbytes, hresult⟩ := Resolved.bind_eq_ok_iff.mp h
      obtain rfl := Except.ok.inj hresult
      obtain ⟨other, -, hcarrier⟩ := List.exists_of_findSome?_eq_some hfound
      obtain ⟨hfind, -⟩ := carrier?_eq_some_iff.mp hcarrier
      have hname : field.name = other := by simpa using List.find?_some hfind
      obtain rfl : name = field.name := (DiscriminatorOrigin.field.inj horigin).symm
      rw [← hname] at hcarrier
      exact ⟨field, literal, hcarrier, hbytes⟩
    · obtain rfl := Except.ok.inj h
      cases horigin

end Candidates

/-! ## The content of the field -/

/-- A result whose error is replaced is the same result. -/
theorem mapError_eq_ok_iff {ε ε' α : Type} {result : Except ε α} {f : ε → ε'} {a : α} :
    result.mapError f = .ok a ↔ result = .ok a := by
  cases result <;> simp [Except.mapError]

theorem writes_of_numberBytes {place : String} {i : Int} {format : NumberFormat}
    {value : Value} {bytes : List UInt8} (hvalue : value.integer? = some i)
    (h : Idl.numberBytes place (.int i) format = .ok bytes) :
    Writes (writeNumber format value) bytes := by
  obtain ⟨value', hinteger, hvalue'⟩ : ∃ value', Idl.integerValue? (.int i) = some value' ∧
      value'.integer? = some i := by
    cases i with
    | ofNat n => exact ⟨.unsigned n, rfl, rfl⟩
    | negSucc n => exact ⟨.signed (.negSucc n), rfl, rfl⟩
  unfold Idl.numberBytes at h
  rw [hinteger] at h
  have hwrites := Codec.encode_eq_ok_iff.mp (mapError_eq_ok_iff.mp h)
  exact (writes_number_congr hvalue hvalue').mpr hwrites

/-- What a text of bytes stands for does not depend on the place that messages name. -/
theorem decode_unique {text : BytesValue} {place place' : String} {data data' : List UInt8}
    (h : text.decode place = .ok data) (h' : text.decode place' = .ok data') : data = data' := by
  unfold BytesValue.decode at h h'
  cases hencoding : text.encoding
  case utf8 =>
    rw [hencoding] at h h'
    exact Except.ok.inj (h.symm.trans h')
  all_goals
    rw [hencoding] at h h'
    exact Except.ok.inj ((mapError_eq_ok_iff.mp h).symm.trans (mapError_eq_ok_iff.mp h'))

/-- A discriminator that a field carries does not stand in front of the fields. -/
theorem AccountClass.isFramed_eq_false {cls : AccountClass} {name : String}
    (horigin : cls.discriminator.origin = .field name) : cls.isFramed = false := by
  simp only [isFramed, Discriminator.isCarried, Discriminator.field?, horigin]
  rfl

namespace Resolver

variable {resolver : Resolver} {name : String}

/-- A number of one byte stands at the beginning of every integer that is written. -/
theorem exists_lead_of_u8 {codec : Codec} {value : Value} {i : Int} {bytes part : List UInt8}
    (name : String) (hvalue : value.integer? = some i)
    (hbytes : Writes (writeNumber .u8 value) bytes) (hpart : Writes (codec.write value) part) :
    ∃ lead rest, codec.Leads name value lead ∧ part = lead ++ bytes ++ rest := by
  obtain ⟨lead, format, content, hleads, hcontent, rfl⟩ :=
    Codec.exists_leads_of_integer name hvalue hpart
  obtain ⟨rest, rfl⟩ := exists_append_of_writes_u8 hbytes hcontent
  exact ⟨lead, rest, hleads, (List.append_assoc lead bytes rest).symm⟩

/-- A discriminator that is a number stands in every field that holds the number: either its format
is that of the field, or it is one byte. -/
theorem exists_lead_of_number {node : TypeNode} {codec : Codec} (h : resolver.Lays node codec)
    {value : Value} {i : Int} {bytes : List UInt8} (hvalue : value.integer? = some i)
    (hbytes : Writes (writeNumber (discriminatorFormat node) value) bytes) : ∀ {part},
    Writes (codec.write value) part →
      ∃ lead rest, codec.Leads name value lead ∧ part = lead ++ bytes ++ rest := by
  induction h with
  | number format =>
    intro part hpart
    obtain rfl := hbytes.unique hpart
    exact ⟨[], [], .number format value, (List.append_nil bytes).symm⟩
  | fixedSize size _ _ _ ih =>
    intro part hpart
    obtain ⟨hinner, -⟩ := writes_fixedSize_iff.mp hpart
    obtain ⟨lead, rest, hleads, rfl⟩ := ih hbytes hinner
    exact ⟨lead, rest, .fixedSize size hleads, rfl⟩
  -- All other types take the number as one byte.
  | _ => exact exists_lead_of_u8 name hvalue hbytes

/-- **Where the discriminator stands in a field that holds it**: behind the sizes and lengths in
front of the content. -/
theorem exists_lead_of_lays {node : TypeNode} {codec : Codec} {literal : ValueNode} {value : Value}
    {place : String} {bytes part : List UInt8} (h : resolver.Lays node codec)
    (hholds : literal.Holds value)
    (hbytes : discriminatorBytes place literal (some node) = .ok bytes)
    (hpart : Writes (codec.write value) part) :
    ∃ lead rest, codec.Leads name value lead ∧ part = lead ++ bytes ++ rest := by
  cases hholds with
  | number hvalue =>
    exact exists_lead_of_number h hvalue (writes_of_numberBytes hvalue hbytes) hpart
  | bytes hdata =>
    obtain rfl := decode_unique hdata hbytes
    obtain ⟨lead, hleads, rfl⟩ := Codec.exists_leads_of_bytes name hpart
    exact ⟨lead, [], hleads, (List.append_nil _).symm⟩

/-! ## The data of an account -/

/-- The fields of a layout have the names that are declared. -/
theorem names_eq_of_forall₂ {fields : List StructField} {codecs : List FieldCodec}
    (h : List.Forall₂ resolver.FieldLays fields codecs) :
    codecs.map FieldCodec.name = fields.map StructField.name := by
  induction h with
  | nil => rfl
  | cons hhead _ ih => rw [List.map_cons, List.map_cons, ih, hhead.1]

/-- The first field of a name is written behind the sizes in front of the struct and behind the
fields before it. -/
theorem exists_front_of_lays {node : TypeNode} {codec : Codec} (h : resolver.Lays node codec)
    {fields : List StructField} {field : StructField} {values : List (String × Value)}
    {value : Value} (hfind : fields.find? (·.name == name) = some field)
    (hvalue : values.lookup name = some value) : node.structFields? = some fields →
    ∀ {bytes}, Writes (codec.write (.struct values)) bytes →
      ∃ fieldCodec front part rest, resolver.Lays field.type fieldCodec ∧
        Writes (fieldCodec.write value) part ∧ bytes = front ++ part ++ rest ∧
          ∀ lead, fieldCodec.Leads name value lead →
            codec.Leads name (.struct values) (front ++ lead) := by
  induction h with
  | @struct struct fields' codecs hnames hzip _ =>
    intro hfields bytes hbytes
    obtain rfl := Option.some.inj hfields
    obtain ⟨hname, before, after, rfl, hbefore⟩ := List.find?_eq_some_iff_append.mp hfind
    have hlays : List.Forall₂ resolver.FieldLays (before ++ field :: after) codecs :=
      hnames.mp (fun _ _ => And.intro) (forall₂_of_zip hnames.length_eq hzip)
    obtain ⟨earlier, ⟨fieldName, fieldCodec⟩, later, rfl, hearlier, ⟨hfield, hcodec⟩, -⟩ :=
      exists_split_of_forall₂ hlays
    obtain rfl : fieldName = name := hfield.symm.trans (by simpa using hname)
    -- The field is the first one of its name, so the fields before it have other names.
    have habsent : fieldName ∉ earlier.map FieldCodec.name := by
      rw [names_eq_of_forall₂ hearlier]
      intro hmem
      obtain ⟨other, hother, heq⟩ := List.mem_map.mp hmem
      have hne := hbefore other hother
      simp [heq] at hne
    obtain ⟨_, heq, hwrites⟩ := writes_struct_iff.mp hbytes
    obtain rfl := Value.struct.inj heq
    obtain ⟨front, back, hfront, hback, rfl⟩ := writes_fields_append_iff.mp hwrites
    obtain ⟨_, hlookup, part, rest, hpart, -, rfl⟩ := writes_fields_cons_iff.mp hback
    obtain rfl := Option.some.inj (hvalue.symm.trans hlookup)
    refine ⟨fieldCodec, front, part, rest, hcodec, hpart, ?_, fun lead hlead => ?_⟩
    · exact (List.append_assoc front part rest).symm
    · exact .field habsent hvalue hfront hlead
  | fixedSize size _ _ _ ih =>
    intro hfields bytes hbytes
    obtain ⟨hinner, -⟩ := writes_fixedSize_iff.mp hbytes
    obtain ⟨fieldCodec, front, part, rest, hlays, hpart, rfl, hleads⟩ := ih hfields hinner
    exact ⟨fieldCodec, front, part, rest, hlays, hpart, rfl, fun lead hlead =>
      .fixedSize size (hleads lead hlead)⟩
  | sizePrefix width _ _ _ ih =>
    intro hfields bytes hbytes
    obtain ⟨size, whole, hwhole, hsize, rfl⟩ := writes_sizePrefixed_iff.mp hbytes
    obtain ⟨fieldCodec, front, part, rest, hlays, hpart, rfl, hleads⟩ := ih hfields hwhole
    refine ⟨fieldCodec, size ++ front, part, rest, hlays, hpart, ?_, fun lead hlead => ?_⟩
    · simp only [List.append_assoc]
    · rw [List.append_assoc]
      exact .sizePrefixed hwhole hsize (hleads lead hlead)
  | _ =>
    intro hfields
    cases hfields

/-- The fields that a discriminator of an account is chosen from are those of its data. -/
theorem exists_fields_of_find? {account : Idl.Account} {field : StructField}
    (h : (Candidates.ofAccount account).fields.find? (·.name == name) = some field) :
    ∃ fields, account.data.structFields? = some fields ∧
      fields.find? (·.name == name) = some field := by
  unfold Candidates.ofAccount at h
  cases hfields : account.data.structFields? with
  | none =>
    rw [hfields] at h
    cases h
  | some fields =>
    rw [hfields] at h
    exact ⟨fields, rfl, h⟩

/-- What stands behind a lead begins with it only if the lead does. -/
theorem prefix_lead_iff {lead bytes rest : List UInt8} :
    bytes <+: lead ++ bytes ++ rest ↔ bytes <+: lead ++ bytes := by
  constructor
  · intro h
    exact List.prefix_of_prefix_length_le h (List.prefix_append _ rest) (by simp)
  · exact fun h => h.trans (List.prefix_append _ rest)

/-- **When the class of an account accepts its own data.** If a field carries the discriminator, and
holds the number or the bytes that it has as its default value, the discriminator stands behind the
lead of that field, whatever offset is declared. So the data begins with the discriminator if and
only if the lead and the discriminator together do; and this is so if nothing stands in front of
the field. -/
theorem discriminator_prefix_iff {account : Idl.Account} {cls : AccountClass} {field : StructField}
    {literal : ValueNode} {value : Value} {values : List (String × Value)} {bytes : List UInt8}
    (hcls : resolver.accountClass account = .ok cls)
    (horigin : cls.discriminator.origin = .field name)
    (hcarrier : (Candidates.ofAccount account).carrier? name = some (field, literal))
    (hholds : literal.Holds value) (hvalue : values.lookup name = some value)
    (hencode : cls.manifest.codec.encode (.struct values) = .ok bytes) :
    cls.isFramed = false ∧
    (∃ lead rest, cls.manifest.codec.Leads name (.struct values) lead ∧
      bytes = lead ++ cls.discriminator.bytes ++ rest ∧
      (cls.discriminator.bytes <+: bytes ↔
        cls.discriminator.bytes <+: lead ++ cls.discriminator.bytes)) ∧
    (cls.manifest.codec.Bare name → cls.discriminator.bytes <+: bytes) := by
  obtain ⟨manifest, hmanifest, hrest⟩ := Resolved.bind_eq_ok_iff.mp hcls
  obtain ⟨discriminator, hdiscriminator, hresult⟩ := Resolved.bind_eq_ok_iff.mp hrest
  obtain rfl := Except.ok.inj hresult
  obtain ⟨field', literal', hcarrier', hbytes⟩ :=
    Candidates.exists_carrier hdiscriminator horigin
  obtain ⟨rfl, rfl⟩ := Prod.mk.inj (Option.some.inj (hcarrier.symm.trans hcarrier'))
  obtain ⟨hfind, -⟩ := Candidates.carrier?_eq_some_iff.mp hcarrier
  obtain ⟨fields, hfields, hfind⟩ := exists_fields_of_find? hfind
  obtain ⟨fieldCodec, front, part, behind, hlays, hpart, rfl, hleads⟩ :=
    exists_front_of_lays (lays_of_resolve hmanifest) hfind hvalue hfields
      (Codec.encode_eq_ok_iff.mp hencode)
  obtain ⟨lead, rest, hlead, rfl⟩ := exists_lead_of_lays hlays hholds hbytes hpart
  -- The lead of the field within its own part continues that of the whole.
  have hwhole : front ++ (lead ++ discriminator.bytes ++ rest) ++ behind =
      front ++ lead ++ discriminator.bytes ++ (rest ++ behind) := by
    simp only [List.append_assoc]
  have hall := hleads lead hlead
  refine ⟨AccountClass.isFramed_eq_false horigin,
    ⟨front ++ lead, rest ++ behind, hall, hwhole, ?_⟩, fun hbare => ?_⟩
  · rw [hwhole]
    exact prefix_lead_iff
  · rw [hwhole, hbare.lead_eq_nil hall]
    exact List.prefix_append _ _

/-- An account whose discriminator is carried by a field at an offset. -/
def counter (offset : Nat) (fields : List StructField) : Idl.Account where
  name := "counter"
  size := none
  docs := []
  data := .struct fields
  pda := none
  discriminators := [.field "discriminator" offset]

/-- A count of one byte. -/
def countField : StructField := ⟨"count", .number ⟨.u8, .little⟩, [], none⟩

/-- A discriminator of one byte. -/
def tagField : StructField :=
  ⟨"discriminator", .number ⟨.u8, .little⟩, [], some (.number (.int 1))⟩

/-- Links inside no program. -/
def linkless : Resolver := ⟨.empty, "main"⟩

/-- A counter accepts its own data if the discriminator comes first. -/
theorem discriminator_prefix_counter : ∃ cls bytes,
    linkless.accountClass (counter 0 [tagField, countField]) = .ok cls ∧
    cls.manifest.codec.encode (.struct [("count", .unsigned 7), ("discriminator", .unsigned 1)]) =
      .ok bytes ∧ cls.discriminator.bytes <+: bytes := by
  have hcls : ∃ cls, linkless.accountClass (counter 0 [tagField, countField]) = .ok cls ∧
      cls.discriminator.origin = .field "discriminator" ∧
      cls.manifest.codec.Bare "discriminator" ∧
      cls.manifest.codec.encode (.struct [("count", .unsigned 7), ("discriminator", .unsigned 1)]) =
        .ok [1, 7] :=
    ⟨_, rfl, rfl, .field _ _ (.number .u8), rfl⟩
  obtain ⟨cls, hcls, horigin, hbare, hencode⟩ := hcls
  have hcarrier : (Candidates.ofAccount (counter 0 [tagField, countField])).carrier?
      "discriminator" = some (tagField, .number (.int 1)) := rfl
  have hholds : (ValueNode.number (.int 1)).Holds (.unsigned 1) := .number rfl
  exact ⟨cls, [1, 7], hcls, hencode,
    (discriminator_prefix_iff hcls horigin hcarrier hholds rfl hencode).2.2 hbare⟩

/-- A counter whose count comes first does not accept its own data. -/
theorem not_discriminator_prefix_counter : ∃ cls,
    linkless.accountClass (counter 1 [countField, tagField]) = .ok cls ∧
    cls.discriminator = ⟨[1], .field "discriminator"⟩ ∧
    cls.manifest.codec.encode (.struct [("count", .unsigned 0), ("discriminator", .unsigned 1)]) =
      .ok [0, 1] ∧ ¬ [1] <+: ([0, 1] : List UInt8) :=
  ⟨_, rfl, rfl, rfl, by decide⟩

end Resolver

end DartClient
