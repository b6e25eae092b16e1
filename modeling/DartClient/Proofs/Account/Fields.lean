import DartClient.Proofs.Account.Framing
import DartClient.Proofs.Manifest.Building
import DartClient.Proofs.Wire.Measure

/-!
# Accounts and their fields

The class of an account is written field by field, while the layout of the data is that of the whole
type. Where the data is no struct, the class has one field with the whole layout. Where it is a
struct, the class has the fields of the struct, whatever sizes stand around it. A size that the
struct has to have is only checked, but one that stands in front of the struct is written: the class
leaves it out, so what it writes is not the data.

## Main definitions

* `Idl.Account.frontSizes`: the sizes in front of the struct that the data is.
* `SizesBefore`: how such sizes are written.
* `Manifest.ShowsStruct`: the fields of a struct are shown, and written behind such sizes.
* `AccountClass.Encodes`: what a field of the class is encoded to.

## Main results

* `Resolver.showsStruct_of_resolveWithin`: a class that is its user shows its fields, however many
  sizes stand around it.
* `Resolver.layout_of_accountClass`: the data is what the fields are encoded to, behind the sizes in
  front of the struct.
-/

namespace DartClient

open Idl (TypeNode StructField NumberFormat)
open Step (Writes)

/-! ## The sizes in front of a struct -/

/-- The formats of the sizes in front of a struct, outermost first. -/
def Idl.TypeNode.frontSizes : TypeNode → List NumberFormat
  | .fixedSize inner _ => inner.frontSizes
  | .sizePrefix inner width => width.format :: inner.frontSizes
  | _ => []

/-- The formats of the sizes in front of the struct that the data of an account is, if it is one. -/
def Idl.Account.frontSizes (account : Idl.Account) : List NumberFormat :=
  if account.data.structFields?.isSome then account.data.frontSizes else []

/-- The sizes are written in front of the body: each counts the bytes behind it. -/
inductive SizesBefore (body : List UInt8) : List NumberFormat → List UInt8 → Prop
  | nil : SizesBefore body [] []
  | cons {format : NumberFormat} {formats : List NumberFormat} {size front : List UInt8}
      (hsize : Writes (writeNumber format (.unsigned (front ++ body).length)) size)
      (hfront : SizesBefore body formats front) :
      SizesBefore body (format :: formats) (size ++ front)

/-- Every number takes at least one byte. -/
theorem ne_nil_of_writes_number {format : NumberFormat} {value : Value} {bytes : List UInt8}
    (h : Writes (writeNumber format value) bytes) : bytes ≠ [] := by
  cases hwidth : format.byteWidth? with
  | some width =>
    have hlength : bytes.length = width :=
      (Codec.Measures.number_of_byteWidth? sizeOrder_eq hwidth).writes value bytes h
    rintro rfl
    cases format <;> cases hwidth <;> cases hlength
  | none =>
    cases format <;> cases hwidth
    obtain ⟨n, -, -, rfl⟩ := writes_short_iff.mp h
    rw [shortBytes]
    split <;> exact List.cons_ne_nil _ _

/-- Nothing is written in front of the body exactly if there are no sizes. -/
theorem SizesBefore.front_eq_nil_iff {body front : List UInt8} {formats : List NumberFormat}
    (h : SizesBefore body formats front) : front = [] ↔ formats = [] := by
  cases h with
  | nil => simp
  | cons hsize _ => simp [ne_nil_of_writes_number hsize]

/-! ## The fields of a struct -/

/-- A struct is written as one part for each field, in order. -/
theorem exists_parts_of_writes_fields {values : List (String × Value)} :
    ∀ {fields : List FieldCodec} {bytes : List UInt8}, Writes (writeFields fields values) bytes →
      ∃ parts, List.Forall₂ (fun field part => ∃ value, values.lookup field.name = some value ∧
        Writes (field.codec.write value) part) fields parts ∧ bytes = parts.flatten := by
  intro fields
  induction fields with
  | nil =>
    intro bytes h
    obtain rfl := Step.writes_done_iff.mp h
    exact ⟨[], .nil, rfl⟩
  | cons field fields ih =>
    intro bytes h
    obtain ⟨name, codec⟩ := field
    obtain ⟨value, hvalue, front, back, hfront, hback, rfl⟩ := writes_fields_cons_iff.mp h
    obtain ⟨parts, hparts, rfl⟩ := ih hback
    exact ⟨front :: parts, .cons ⟨value, hvalue, hfront⟩ hparts, rfl⟩

/-! ## Structs below sizes -/

/-- The manifest of a type shows the fields of a struct. They are written behind the sizes in front
of the struct. -/
def Manifest.ShowsStruct (manifest : Manifest) (node : TypeNode) : Prop :=
  ∃ shown, manifest.fields? = some shown ∧
    ∀ {value bytes}, Writes (manifest.codec.write value) bytes →
      ∃ values front body, value = .struct values ∧
        Writes (writeFields (shown.map FieldManifest.entry) values) body ∧
          SizesBefore body node.frontSizes front ∧ bytes = front ++ body

namespace Manifest.ShowsStruct

variable {inner : Manifest} {node : TypeNode}

/-- A size that the struct has to have is not written. -/
theorem fixedSize (h : inner.ShowsStruct node) (size : Nat) :
    (wrapKeepingShape inner (.fixedSize inner.codec size)).ShowsStruct (.fixedSize node size) := by
  obtain ⟨shown, hshown, hwrites⟩ := h
  refine ⟨shown, hshown, fun {value bytes} hbytes => ?_⟩
  obtain ⟨hinner, -⟩ := writes_fixedSize_iff.mp hbytes
  exact hwrites hinner

/-- A size in front of the struct is written in front of what the struct is written to. -/
theorem sizePrefix (h : inner.ShowsStruct node) (format : NumberFormat) :
    (wrapKeepingShape inner (.sizePrefixed inner.codec format)).ShowsStruct
      (.sizePrefix node ⟨format, .little⟩) := by
  obtain ⟨shown, hshown, hwrites⟩ := h
  refine ⟨shown, hshown, fun {value bytes} hbytes => ?_⟩
  obtain ⟨size, whole, hwhole, hsize, rfl⟩ := writes_sizePrefixed_iff.mp hbytes
  obtain ⟨values, front, body, hvalue, hbody, hfront, rfl⟩ := hwrites hwhole
  exact ⟨values, size ++ front, body, hvalue, hbody, .cons hsize hfront,
    (List.append_assoc size front body).symm⟩

end Manifest.ShowsStruct

namespace Resolver

variable {resolver : Resolver} {child : ResolveChild} {ctx : ResolveContext} {manifest : Manifest}

theorem showsStruct_of_struct (hchild : resolver.ChildLays child) (hdeclares : ctx.declares = false)
    {fields : List StructField} (h : structManifest child ctx fields = .ok manifest) :
    manifest.ShowsStruct (.struct fields) := by
  obtain ⟨name, shown, hcodec, -, hshown⟩ := structManifest_spec hchild h
  refine ⟨shown, hshown hdeclares, fun {value bytes} hbytes => ?_⟩
  rw [hcodec] at hbytes
  obtain ⟨values, rfl, hbody⟩ := writes_struct_iff.mp hbytes
  exact ⟨values, [], bytes, rfl, hbody, .nil, rfl⟩

/-- **A class that is its user shows its fields**, however many sizes stand around it. -/
theorem showsStruct_of_resolveWithin (levels : Nat) : ∀ {node : TypeNode} {ctx : ResolveContext}
    {manifest : Manifest}, node.structFields?.isSome → ctx.declares = false →
      resolver.resolveWithin levels node ctx = .ok manifest → manifest.ShowsStruct node := by
  -- The induction is on the number of levels that are left.
  induction levels with
  | zero =>
    intro node ctx manifest _ _ h
    cases h
  | succ levels ih =>
    intro node ctx manifest hstruct hdeclares h
    -- What stands below a size is the user itself as well.
    have hitem : ctx.item.declares = false := hdeclares
    cases makes_of_resolveLevel h with
    | struct h =>
      exact showsStruct_of_struct (childLays_resolveWithin resolver levels) hdeclares h
    | @fixedSize item inner size _ _ hinner =>
      have hstruct : item.structFields?.isSome := hstruct
      have hshows : inner.ShowsStruct item := ih hstruct hitem hinner
      exact hshows.fixedSize size
    | @sizePrefix item inner format _ _ hinner =>
      have hstruct : item.structFields?.isSome := hstruct
      have hshows : inner.ShowsStruct item := ih hstruct hitem hinner
      exact hshows.sizePrefix format
    | _ => cases hstruct

end Resolver

/-! ## The class of an account -/

namespace AccountClass

variable {cls : AccountClass} {value : Value}

/-- What a field of the class holds of a value of the data: what stands in the struct under its
name, or the value as a whole where the data is no struct. -/
def held? (cls : AccountClass) (value : Value) (field : FieldManifest) : Option Value :=
  match cls.manifest.fields? with
  | none => some value
  | some _ =>
    match value with
    | .struct values => values.lookup field.sourceName
    | _ => none

/-- What a field of the class is encoded to. -/
def Encodes (cls : AccountClass) (value : Value) (field : FieldManifest) (part : List UInt8) :
    Prop :=
  ∃ held, cls.held? value field = some held ∧ field.codec.encode held = .ok part

/-- A field is encoded to one text of bytes at most. -/
theorem rightUnique_encodes : Relator.RightUnique (cls.Encodes value) := by
  rintro field part part' ⟨held, hheld, hpart⟩ ⟨held', hheld', hpart'⟩
  obtain rfl := Option.some.inj (hheld.symm.trans hheld')
  exact Except.ok.inj (hpart.symm.trans hpart')

/-- The fields of a struct are encoded to the parts that the struct is written as. -/
theorem exists_parts_of_fields {shown : List FieldManifest} (hshown : cls.manifest.fields? =
    some shown) {values : List (String × Value)} {body : List UInt8}
    (h : Writes (writeFields (shown.map FieldManifest.entry) values) body) :
    ∃ parts, List.Forall₂ (cls.Encodes (.struct values)) cls.fields parts ∧
      body = parts.flatten := by
  obtain ⟨parts, hparts, rfl⟩ := exists_parts_of_writes_fields h
  have hfields : cls.fields = shown := by rw [fields, hshown, Option.getD_some]
  refine ⟨parts, ?_, rfl⟩
  rw [hfields]
  refine (List.forall₂_map_left_iff.mp hparts).imp fun field part hpart => ?_
  obtain ⟨held, hheld, hpart⟩ := hpart
  refine ⟨held, ?_, Codec.encode_eq_ok_iff.mpr hpart⟩
  simp only [held?, hshown]
  exact hheld

/-- The only field of data that is no struct is encoded to the whole. -/
theorem forall₂_encodes_whole (hplain : cls.manifest.fields? = none) {bytes : List UInt8}
    (h : cls.manifest.codec.encode value = .ok bytes) :
    List.Forall₂ (cls.Encodes value) cls.fields [bytes] := by
  have hfields : cls.fields = [dataField cls.manifest] := by
    rw [fields, hplain, Option.getD_none]
  have hheld : cls.held? value (dataField cls.manifest) = some value := by
    simp only [held?, hplain]
  rw [hfields]
  exact .cons ⟨value, hheld, h⟩ .nil

end AccountClass

namespace Resolver

variable {resolver : Resolver}

/-- The manifest of the class is that of the data. -/
theorem resolve_of_accountClass {account : Idl.Account} {cls : AccountClass}
    (h : resolver.accountClass account = .ok cls) :
    resolver.resolve account.data (accountContext account) = .ok cls.manifest := by
  obtain ⟨manifest, hmanifest, hrest⟩ := Resolved.bind_eq_ok_iff.mp h
  obtain ⟨discriminator, -, hresult⟩ := Resolved.bind_eq_ok_iff.mp hrest
  obtain rfl := Except.ok.inj hresult
  exact hmanifest

/-- **The layout of an account and of its class.** What the data is encoded to is what the fields of
the class are encoded to, one after the other, behind the sizes in front of the struct that the
data is. So the class has the layout of the data exactly if no size stands in front of the
struct. -/
theorem layout_of_accountClass {account : Idl.Account} {cls : AccountClass} {value : Value}
    {bytes : List UInt8} (hcls : resolver.accountClass account = .ok cls)
    (hencode : cls.manifest.codec.encode value = .ok bytes) : ∃ parts front,
      List.Forall₂ (cls.Encodes value) cls.fields parts ∧
      SizesBefore parts.flatten account.frontSizes front ∧ bytes = front ++ parts.flatten ∧
      (bytes = parts.flatten ↔ account.frontSizes = []) := by
  have hmanifest := resolve_of_accountClass hcls
  -- Data that is no struct is one field, and then no size stands in front of it.
  cases hstruct : account.data.structFields? with
  | some fields =>
    have hctx : (accountContext account).declares = false := by
      rw [accountContext, hstruct]
      rfl
    have hsizes : account.frontSizes = account.data.frontSizes := by
      rw [Idl.Account.frontSizes, hstruct]
      rfl
    obtain ⟨shown, hshown, hwrites⟩ :=
      showsStruct_of_resolveWithin _ (by rw [hstruct]; rfl) hctx hmanifest
    obtain ⟨values, front, body, rfl, hbody, hfront, rfl⟩ :=
      hwrites (Codec.encode_eq_ok_iff.mp hencode)
    obtain ⟨parts, hparts, rfl⟩ := AccountClass.exists_parts_of_fields hshown hbody
    rw [← hsizes] at hfront
    exact ⟨parts, front, hparts, hfront, rfl, by simp [hfront.front_eq_nil_iff]⟩
  | none =>
    have hctx : (accountContext account).declares = true := by
      rw [accountContext, hstruct]
      rfl
    have hsizes : account.frontSizes = [] := by
      rw [Idl.Account.frontSizes, hstruct]
      rfl
    have hplain : cls.manifest.fields? = none := by
      rw [Manifest.fields?, shape_of_builds (builds_of_resolve hmanifest) hctx]
    rw [hsizes]
    exact ⟨[bytes], [], AccountClass.forall₂_encodes_whole hplain hencode, .nil, by simp, by simp⟩

/-- The step of a counter, of two bytes. -/
def stepField : StructField := ⟨"step", .number ⟨.u16, .little⟩, [], none⟩

/-- A count with its step. -/
def stepType : TypeNode := .struct [countField, stepField]

/-- A value of a count with its step. -/
def stepValue : Value := .struct [("step", .unsigned 258), ("count", .unsigned 7)]

/-- A counter of a size that is checked has the layout of its fields. -/
theorem layout_of_accountClass_counter : ∃ cls parts,
    linkless.accountClass { stamped [] with data := .fixedSize stepType 3 } = .ok cls ∧
    cls.manifest.codec.encode stepValue = .ok [7, 2, 1] ∧
    List.Forall₂ (cls.Encodes stepValue) cls.fields parts ∧ [7, 2, 1] = parts.flatten := by
  have hcls : ∃ cls,
      linkless.accountClass { stamped [] with data := .fixedSize stepType 3 } = .ok cls ∧
      cls.manifest.codec.encode stepValue = .ok [7, 2, 1] := ⟨_, rfl, rfl⟩
  obtain ⟨cls, hcls, hencode⟩ := hcls
  obtain ⟨parts, front, hparts, -, -, hiff⟩ := layout_of_accountClass hcls hencode
  exact ⟨cls, parts, hcls, hencode, hparts, hiff.mpr rfl⟩

/-- A counter behind its size is not what its fields are encoded to. -/
theorem not_layout_of_accountClass_counter : ∃ cls,
    linkless.accountClass { stamped [] with data := .sizePrefix stepType ⟨.u32, .little⟩ } =
      .ok cls ∧
    cls.manifest.codec.encode stepValue = .ok [3, 0, 0, 0, 7, 2, 1] ∧
    List.Forall₂ (cls.Encodes stepValue) cls.fields [[7], [2, 1]] ∧
    ∀ parts, List.Forall₂ (cls.Encodes stepValue) cls.fields parts →
      [3, 0, 0, 0, 7, 2, 1] ≠ parts.flatten := by
  have hfields : ∃ cls,
      linkless.accountClass { stamped [] with data := .sizePrefix stepType ⟨.u32, .little⟩ } =
        .ok cls ∧
      cls.manifest.codec.encode stepValue = .ok [3, 0, 0, 0, 7, 2, 1] ∧
      List.Forall₂ (cls.Encodes stepValue) cls.fields [[7], [2, 1]] :=
    ⟨_, rfl, rfl, .cons ⟨.unsigned 7, rfl, rfl⟩ (.cons ⟨.unsigned 258, rfl, rfl⟩ .nil)⟩
  obtain ⟨cls, hcls, hencode, hparts⟩ := hfields
  refine ⟨cls, hcls, hencode, hparts, fun parts hother => ?_⟩
  obtain rfl := List.right_unique_forall₂' AccountClass.rightUnique_encodes hparts hother
  decide

end Resolver

end DartClient
