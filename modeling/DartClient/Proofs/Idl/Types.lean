import DartClient.Idl.Reader
import DartClient.Proofs.Json.Records

/-!
# Types and values are read back

The document of a type or of a value is read as that type or value. Types and values contain each
other, and both are read with a bound on their nesting; so the claim is shown for both at once, by
induction on the bound: below a document that nests within one more, the documents of the parts
nest within the bound.

## Main results

* `TypeNode.isReadable_toJson`, `ValueNode.isReadable_toJson`: the documents can be held.
* `reads_within`: they are read back within every bound that they nest within.
* `TypeNode.ofJson?_toJson`, `ValueNode.ofJson?_toJson`: they are read back.
-/

namespace DartClient.Idl

open Json

/-! ## Numbers, counts and bytes -/

theorem NumberFormat.ofName?_name (format : NumberFormat) :
    NumberFormat.ofName? format.name = some format := by
  cases format <;> rfl

theorem NumberFormat.ofPart?_string (format : NumberFormat) :
    NumberFormat.ofPart? (.string format.name) = some format := format.ofName?_name

theorem Endian.ofPart?_string (endian : Endian) :
    Endian.ofPart? (.string endian.name) = some endian := by
  cases endian <;> rfl

theorem BytesEncoding.ofPart?_string (encoding : BytesEncoding) :
    BytesEncoding.ofPart? (.string encoding.name) = some encoding := by
  cases encoding <;> rfl

@[simp] theorem NumberType.ofJson?_toJson (type : NumberType) :
    NumberType.ofJson? type.toJson = some type := by
  rw [NumberType.toJson, NumberType.ofJson?, record?_object (by simp) (by simp)]
  simp [NumberFormat.ofPart?_string, Endian.ofPart?_string]

@[simp] theorem wrappedNumber?_object (type : NumberType) :
    wrappedNumber? (.object [("number", type.toJson)]) = some type := by
  rw [wrappedNumber?, record?_object (by simp) (by simp)]
  simp

@[simp] theorem Count.ofPart?_toJson (count : Count) :
    Count.ofPart? count.toJson = some count := by
  cases count with
  | fixed value =>
    rw [Count.toJson, Count.ofPart?, tagged?_taggedObject (by simp)]
    simp [record?_object]
  | prefixed width =>
    rw [Count.toJson, Count.ofPart?, tagged?_taggedObject (by simp)]
    simp [record?_object]
  | remainder => rfl

@[simp] theorem BytesValue.ofJson?_members (value : BytesValue) :
    BytesValue.ofJson? (.object value.members) = some value := by
  rw [BytesValue.members, BytesValue.ofJson?, record?_object (by simp) (by simp)]
  simp [BytesEncoding.ofPart?_string]

@[simp] theorem named?_object (name : String) :
    named? (.object [("name", .string name)]) = some name := by
  rw [named?, record?_object (by simp) (by simp)]
  simp

theorem typeLink?_object (name : String) (program : Option String) :
    typeLink? (.object (("name", .string name) ::
      optionalMember "program" (program.map fun name => .object [("name", .string name)]))) =
      some (name, program) := by
  cases program <;> simp [typeLink?, record?_object, optionalMember]

/-! ## Lists -/

theorem typesToJson_eq_map (types : List TypeNode) :
    typesToJson types = types.map TypeNode.toJson := by
  induction types with
  | nil => rfl
  | cons type types ih => rw [typesToJson, ih, List.map_cons]

theorem fieldsToJson_eq_map (fields : List StructField) :
    fieldsToJson fields = fields.map StructField.toJson := by
  induction fields with
  | nil => rfl
  | cons field fields ih => rw [fieldsToJson, ih, List.map_cons]

theorem variantsToJson_eq_map (variants : List EnumVariant) :
    variantsToJson variants = variants.map EnumVariant.toJson := by
  induction variants with
  | nil => rfl
  | cons variant variants ih => rw [variantsToJson, ih, List.map_cons]

theorem valuesToJson_eq_map (values : List ValueNode) :
    valuesToJson values = values.map ValueNode.toJson := by
  induction values with
  | nil => rfl
  | cons value values ih => rw [valuesToJson, ih, List.map_cons]

/-! ## Documents that can be held -/

@[simp] theorem isReadable_natToJson (n : Nat) : (natToJson n).IsReadable := isReadable_number _

@[simp] theorem isReadable_textsToJson (texts : List String) : (textsToJson texts).IsReadable := by
  simp [textsToJson]

@[simp] theorem NumberType.isReadable_toJson (type : NumberType) : type.toJson.IsReadable := by
  simp [NumberType.toJson]

@[simp] theorem Count.isReadable_toJson (count : Count) : count.toJson.IsReadable := by
  cases count <;> simp [Count.toJson, taggedObject]

/-- The members of a tagged value make up the document with its kind. -/
@[simp] theorem isReadable_taggedObject {kind : String} {members : List (String × Json)} :
    (taggedObject kind members).IsReadable ↔ ∀ member ∈ members, member.2.IsReadable := by
  simp [taggedObject]

theorem isReadable_of_mem_optionalMember {name : String} {value : Option Json}
    (h : ∀ json, value = some json → json.IsReadable) :
    ∀ member ∈ optionalMember name value, member.2.IsReadable := by
  cases value with
  | none => exact fun _ h => by cases h
  | some json => exact List.forall_mem_singleton.mpr (h json rfl)

mutual

theorem TypeNode.isReadable_toJson : ∀ type : TypeNode, type.toJson.IsReadable
  | .number _ | .boolean _ | .string _ | .bytes | .publicKey | .amount _ | .solAmount _
  | .dateTime _ | .altered _ | .unknown => by simp [TypeNode.toJson]
  | .array item _ | .set item _ => by simp [TypeNode.toJson, item.isReadable_toJson]
  | .option item _ _ => by simp [TypeNode.toJson, item.isReadable_toJson]
  | .map key value _ => by
    simp [TypeNode.toJson, key.isReadable_toJson, value.isReadable_toJson]
  | .tuple items => by simpa [TypeNode.toJson] using isReadable_typesToJson items
  | .fixedSize inner _ | .sizePrefix inner _ => by
    simp [TypeNode.toJson, inner.isReadable_toJson]
  | .link _ program => by cases program <;> simp [TypeNode.toJson, optionalMember]
  | .struct fields => by simpa [TypeNode.toJson] using isReadable_fieldsToJson fields
  | .enum variants _ => by simpa [TypeNode.toJson] using isReadable_variantsToJson variants

theorem isReadable_typesToJson : ∀ types : List TypeNode,
    ∀ json ∈ typesToJson types, json.IsReadable
  | [] => fun _ h => by cases h
  | type :: types =>
    List.forall_mem_cons.mpr ⟨type.isReadable_toJson, isReadable_typesToJson types⟩

theorem StructField.isReadable_toJson : ∀ field : StructField, field.toJson.IsReadable
  | ⟨_, type, _, none⟩ => by
    simp [StructField.toJson, type.isReadable_toJson, optionalValueToJson, optionalMember]
  | ⟨_, type, _, some value⟩ => by
    simp [StructField.toJson, type.isReadable_toJson, value.isReadable_toJson,
      optionalValueToJson, optionalMember]

theorem isReadable_fieldsToJson : ∀ fields : List StructField,
    ∀ json ∈ fieldsToJson fields, json.IsReadable
  | [] => fun _ h => by cases h
  | field :: fields =>
    List.forall_mem_cons.mpr ⟨field.isReadable_toJson, isReadable_fieldsToJson fields⟩

theorem EnumVariant.isReadable_toJson : ∀ variant : EnumVariant, variant.toJson.IsReadable
  | .empty _ => by simp [EnumVariant.toJson]
  | .tuple _ items => by simpa [EnumVariant.toJson] using isReadable_typesToJson items
  | .struct _ fields => by simpa [EnumVariant.toJson] using isReadable_fieldsToJson fields

theorem isReadable_variantsToJson : ∀ variants : List EnumVariant,
    ∀ json ∈ variantsToJson variants, json.IsReadable
  | [] => fun _ h => by cases h
  | variant :: variants =>
    List.forall_mem_cons.mpr ⟨variant.isReadable_toJson, isReadable_variantsToJson variants⟩

theorem ValueNode.isReadable_toJson : ∀ value : ValueNode, value.toJson.IsReadable
  | .number _ | .string _ | .boolean _ | .absent | .programId | .unsupported => by
    simp [ValueNode.toJson]
  | .bytes _ => by simp [ValueNode.toJson, BytesValue.members]
  | .publicKey _ identifier => by cases identifier <;> simp [ValueNode.toJson, optionalMember]
  | .array items | .tuple items => by simpa [ValueNode.toJson] using isReadable_valuesToJson items
  | .present value => by simp [ValueNode.toJson, value.isReadable_toJson]
  | .constant type value => by
    simp [ValueNode.toJson, type.isReadable_toJson, value.isReadable_toJson]

theorem isReadable_valuesToJson : ∀ values : List ValueNode,
    ∀ json ∈ valuesToJson values, json.IsReadable
  | [] => fun _ h => by cases h
  | value :: values =>
    List.forall_mem_cons.mpr ⟨value.isReadable_toJson, isReadable_valuesToJson values⟩

end

/-! ## Parts that are read back -/

theorem TypeNode.isTagged_toJson (type : TypeNode) : type.toJson.IsTagged := by
  cases type with
  | link _ program =>
    rw [TypeNode.toJson]
    exact isTagged_taggedObject (by cases program <;> simp [optionalMember])
  | _ =>
    rw [TypeNode.toJson]
    exact isTagged_taggedObject (by simp)

theorem ValueNode.isTagged_toJson (value : ValueNode) : value.toJson.IsTagged := by
  cases value with
  | publicKey _ identifier =>
    rw [ValueNode.toJson]
    exact isTagged_taggedObject (by cases identifier <;> simp [optionalMember])
  | bytes value =>
    rw [ValueNode.toJson]
    exact isTagged_taggedObject (by simp [BytesValue.members])
  | _ =>
    rw [ValueNode.toJson]
    exact isTagged_taggedObject (by simp)

section Parts

variable {readType : Json → Option TypeNode} {readValue : Json → Option ValueNode}

theorem tupleItems?_toJson {types : List TypeNode}
    (h : ∀ type ∈ types, readType type.toJson = some type) :
    tupleItems? readType (.object [("items", .array (typesToJson types))]) = some types := by
  rw [tupleItems?, record?_object (by simp) (by simp), typesToJson_eq_map]
  simp [toList?_map h]

theorem structField?_toJson {field : StructField}
    (htype : readType field.type.toJson = some field.type)
    (hvalue : ∀ value, field.defaultValue = some value → readValue value.toJson = some value) :
    structField? readType readValue field.toJson = some field := by
  obtain ⟨name, type, docs, defaultValue⟩ := field
  rw [StructField.toJson, structField?]
  cases defaultValue with
  | none => simp [record?_object, optionalMember, optionalValueToJson, htype]
  | some value =>
    simp [record?_object, optionalMember, optionalValueToJson, htype, hvalue value rfl,
      value.isTagged_toJson.ne_null]

theorem structFields?_toJson {fields : List StructField}
    (h : ∀ field ∈ fields, structField? readType readValue field.toJson = some field) :
    structFields? readType readValue (.object [("fields", .array (fieldsToJson fields))]) =
      some fields := by
  rw [structFields?, record?_object (by simp) (by simp), fieldsToJson_eq_map]
  simp [toList?_map h]

end Parts

/-! ## Reading within a bound -/

section Bound

variable {bound : Nat} {name : String} {members : List (String × Json)}

/-- Types that nest within a bound are read back within it. -/
def ReadsTypes (bound : Nat) : Prop :=
  ∀ type : TypeNode, type.toJson.NestsWithin bound → TypeNode.read bound type.toJson = some type

/-- Values that nest within a bound are read back within it. -/
def ReadsValues (bound : Nat) : Prop :=
  ∀ value : ValueNode, value.toJson.NestsWithin bound →
    ValueNode.read bound value.toJson = some value

theorem structField?_of_nestsWithin (htypes : ReadsTypes bound) (hvalues : ReadsValues bound)
    {field : StructField} (h : field.toJson.NestsWithin bound) :
    structField? (TypeNode.read bound) (ValueNode.read bound) field.toJson = some field := by
  obtain ⟨name, type, docs, defaultValue⟩ := field
  rw [StructField.toJson] at h
  refine structField?_toJson (htypes type (h.member ("type", type.toJson) (by simp))) ?_
  rintro value rfl
  exact hvalues value (h.member ("defaultValue", value.toJson)
    (by simp [optionalValueToJson, optionalMember]))

theorem structFields?_of_nestsWithin (htypes : ReadsTypes bound) (hvalues : ReadsValues bound)
    {fields : List StructField} (h : (Json.array (fieldsToJson fields)).NestsWithin bound) :
    structFields? (TypeNode.read bound) (ValueNode.read bound)
      (.object [("fields", .array (fieldsToJson fields))]) = some fields := by
  refine structFields?_toJson fun field hfield => ?_
  rw [fieldsToJson_eq_map] at h
  exact structField?_of_nestsWithin htypes hvalues (h.item _ (List.mem_map_of_mem hfield))

theorem tupleItems?_of_nestsWithin (htypes : ReadsTypes bound) {types : List TypeNode}
    (h : (Json.array (typesToJson types)).NestsWithin bound) :
    tupleItems? (TypeNode.read bound) (.object [("items", .array (typesToJson types))]) =
      some types := by
  refine tupleItems?_toJson fun type htype => ?_
  rw [typesToJson_eq_map] at h
  exact htypes type (h.item _ (List.mem_map_of_mem htype))

theorem enumVariant?_of_nestsWithin (htypes : ReadsTypes bound) (hvalues : ReadsValues bound)
    {variant : EnumVariant} (h : variant.toJson.NestsWithin bound) :
    enumVariant? (TypeNode.read bound) (ValueNode.read bound) variant.toJson = some variant := by
  cases variant with
  | empty name =>
    rw [EnumVariant.toJson, enumVariant?, tagged?_taggedObject (by simp)]
    simp [record?_object]
  | tuple name items =>
    rw [EnumVariant.toJson] at h ⊢
    have hpayload := h.member ("tuple", .object [("items", .array (typesToJson items))]) (by simp)
    have hitems := tupleItems?_of_nestsWithin htypes (hpayload.member _ List.mem_cons_self)
    rw [enumVariant?, tagged?_taggedObject (by simp)]
    simp [record?_object, hitems]
  | struct name fields =>
    rw [EnumVariant.toJson] at h ⊢
    have hpayload := h.member ("struct", .object [("fields", .array (fieldsToJson fields))])
      (by simp)
    have hfields :=
      structFields?_of_nestsWithin htypes hvalues (hpayload.member _ List.mem_cons_self)
    rw [enumVariant?, tagged?_taggedObject (by simp)]
    simp [record?_object, hfields]

theorem valueItems?_of_nestsWithin (hvalues : ReadsValues bound) {values : List ValueNode}
    (h : (Json.array (valuesToJson values)).NestsWithin bound) :
    toList? (ValueNode.read bound) (.array (valuesToJson values)) = some values := by
  rw [valuesToJson_eq_map] at h ⊢
  exact toList?_map fun value hvalue => hvalues value (h.item _ (List.mem_map_of_mem hvalue))

/-- One more level of reading types. -/
theorem readsTypes_succ (htypes : ReadsTypes bound) (hvalues : ReadsValues bound) :
    ReadsTypes (bound + 1) := by
  -- What stands inside of a type nests one level less, so the bound below is enough for it.
  intro type h
  cases type with
  | number type =>
    have htype := type.ofJson?_toJson
    rw [NumberType.toJson] at htype
    rw [TypeNode.toJson, TypeNode.read, tagged?_taggedObject (by simp)]
    simp [htype]
  | boolean size =>
    rw [TypeNode.toJson, TypeNode.read, tagged?_taggedObject (by simp)]
    simp [record?_object]
  | string encoding =>
    rw [TypeNode.toJson, TypeNode.read, tagged?_taggedObject (by simp)]
    simp [record?_object, BytesEncoding.ofPart?_string]
  | bytes | publicKey | unknown =>
    rw [TypeNode.toJson, TypeNode.read, tagged?_taggedObject (by simp)]
    rfl
  | array item count | set item count =>
    rw [TypeNode.toJson] at h ⊢
    obtain ⟨hitem, -⟩ := List.forall_mem_cons.mp h.of_taggedObject
    rw [TypeNode.read, tagged?_taggedObject (by simp)]
    simp [record?_object, htypes item hitem]
  | option item flag isFixed =>
    rw [TypeNode.toJson] at h ⊢
    obtain ⟨hitem, -⟩ := List.forall_mem_cons.mp h.of_taggedObject
    rw [TypeNode.read, tagged?_taggedObject (by simp)]
    simp [record?_object, htypes item hitem, toBool?]
  | map key value count =>
    rw [TypeNode.toJson] at h ⊢
    obtain ⟨hkey, hrest⟩ := List.forall_mem_cons.mp h.of_taggedObject
    obtain ⟨hvalue, -⟩ := List.forall_mem_cons.mp hrest
    rw [TypeNode.read, tagged?_taggedObject (by simp)]
    simp [record?_object, htypes key hkey, htypes value hvalue]
  | tuple items =>
    rw [TypeNode.toJson] at h ⊢
    obtain ⟨hitems, -⟩ := List.forall_mem_cons.mp h.of_taggedObject
    rw [TypeNode.read, tagged?_taggedObject (by simp)]
    simp [tupleItems?_of_nestsWithin htypes hitems]
  | fixedSize inner size | sizePrefix inner width =>
    rw [TypeNode.toJson] at h ⊢
    obtain ⟨hinner, -⟩ := List.forall_mem_cons.mp h.of_taggedObject
    rw [TypeNode.read, tagged?_taggedObject (by simp)]
    simp [record?_object, htypes inner hinner]
  | link name program =>
    rw [TypeNode.toJson, TypeNode.read,
      tagged?_taggedObject (by cases program <;> simp [optionalMember])]
    simp [typeLink?_object]
  | struct fields =>
    rw [TypeNode.toJson] at h ⊢
    obtain ⟨hfields, -⟩ := List.forall_mem_cons.mp h.of_taggedObject
    rw [TypeNode.read, tagged?_taggedObject (by simp)]
    simp [structFields?_of_nestsWithin htypes hvalues hfields]
  | enum variants size =>
    rw [TypeNode.toJson, variantsToJson_eq_map] at h ⊢
    obtain ⟨hvariants, -⟩ := List.forall_mem_cons.mp h.of_taggedObject
    have hlist := toList?_map fun variant hvariant =>
      enumVariant?_of_nestsWithin htypes hvalues
        (hvariants.item _ (List.mem_map_of_mem hvariant))
    rw [TypeNode.read, tagged?_taggedObject (by simp)]
    simp [record?_object, hlist]
  | amount number | solAmount number | dateTime number =>
    rw [TypeNode.toJson, TypeNode.read, tagged?_taggedObject (by simp)]
    simp
  | altered kind =>
    cases kind <;>
      · rw [TypeNode.toJson, TypeNode.read, tagged?_taggedObject (by simp)]
        rfl

/-- One more level of reading values. -/
theorem readsValues_succ (htypes : ReadsTypes bound) (hvalues : ReadsValues bound) :
    ReadsValues (bound + 1) := by
  -- As for types, what stands inside of a value nests one level less.
  intro value h
  cases value with
  | number value =>
    rw [ValueNode.toJson, ValueNode.read, tagged?_taggedObject (by simp)]
    simp [record?_object, toNumber?]
  | string value =>
    rw [ValueNode.toJson, ValueNode.read, tagged?_taggedObject (by simp)]
    simp [record?_object]
  | boolean value =>
    rw [ValueNode.toJson, ValueNode.read, tagged?_taggedObject (by simp)]
    simp [record?_object, toBool?]
  | bytes value =>
    rw [ValueNode.toJson, ValueNode.read, tagged?_taggedObject (by simp [BytesValue.members])]
    simp
  | publicKey key identifier =>
    rw [ValueNode.toJson, ValueNode.read,
      tagged?_taggedObject (by cases identifier <;> simp [optionalMember])]
    cases identifier <;> simp [record?_object, optionalMember]
  | array items | tuple items =>
    rw [ValueNode.toJson] at h ⊢
    obtain ⟨hitems, -⟩ := List.forall_mem_cons.mp h.of_taggedObject
    rw [ValueNode.read, tagged?_taggedObject (by simp)]
    simp [record?_object, valueItems?_of_nestsWithin hvalues hitems]
  | absent | programId | unsupported =>
    rw [ValueNode.toJson, ValueNode.read, tagged?_taggedObject (by simp)]
    rfl
  | present value =>
    rw [ValueNode.toJson] at h ⊢
    obtain ⟨hvalue, -⟩ := List.forall_mem_cons.mp h.of_taggedObject
    rw [ValueNode.read, tagged?_taggedObject (by simp)]
    simp [record?_object, hvalues value hvalue]
  | constant type value =>
    rw [ValueNode.toJson] at h ⊢
    obtain ⟨htype, hrest⟩ := List.forall_mem_cons.mp h.of_taggedObject
    obtain ⟨hvalue, -⟩ := List.forall_mem_cons.mp hrest
    rw [ValueNode.read, tagged?_taggedObject (by simp)]
    simp [record?_object, htypes type htype, hvalues value hvalue]

/-- **Types and values are read back within every bound that they nest within.** -/
theorem reads_within (bound : Nat) : ReadsTypes bound ∧ ReadsValues bound := by
  induction bound with
  | zero =>
    constructor
    · exact fun type h => absurd (type.isTagged_toJson.pos_of_nestsWithin h) (Nat.lt_irrefl 0)
    · exact fun value h => absurd (value.isTagged_toJson.pos_of_nestsWithin h) (Nat.lt_irrefl 0)
  | succ bound ih => exact ⟨readsTypes_succ ih.1 ih.2, readsValues_succ ih.1 ih.2⟩

end Bound

/-! ## Types and values -/

@[simp] theorem TypeNode.ofPart?_toJson (type : TypeNode) :
    TypeNode.ofPart? type.toJson = some type := by
  obtain ⟨bound, depth, -, hdepth⟩ := type.isReadable_toJson
  rw [TypeNode.ofPart?, hdepth]
  exact (reads_within depth).1 type ⟨depth, Nat.le_refl depth, hdepth⟩

/-- **A type is read back.** -/
@[simp] theorem TypeNode.ofJson?_toJson (type : TypeNode) :
    TypeNode.ofJson? type.toJson = some type := by
  rw [TypeNode.ofJson?, type.isTagged_toJson.standalone?_eq type.isReadable_toJson,
    Option.bind_some, TypeNode.ofPart?_toJson]

@[simp] theorem ValueNode.ofPart?_toJson (value : ValueNode) :
    ValueNode.ofPart? value.toJson = some value := by
  obtain ⟨bound, depth, -, hdepth⟩ := value.isReadable_toJson
  rw [ValueNode.ofPart?, hdepth]
  exact (reads_within depth).2 value ⟨depth, Nat.le_refl depth, hdepth⟩

/-- **A value is read back.** -/
@[simp] theorem ValueNode.ofJson?_toJson (value : ValueNode) :
    ValueNode.ofJson? value.toJson = some value := by
  rw [ValueNode.ofJson?, value.isTagged_toJson.standalone?_eq value.isReadable_toJson,
    Option.bind_some, ValueNode.ofPart?_toJson]

end DartClient.Idl
