import DartClient.Idl.Writer
import DartClient.Json.Record

/-!
# Reading what has been written

A document can be held if none of its parts is unreadable, and then it nests within some bound; its
parts nest within a smaller one. A record with members of known names, no two of them alike, is read
as its members, and an object that starts with its kind is read as that kind and the members behind
it. A list whose items can be read is read item by item.

## Main definitions

* `Json.NestsWithin`: the document can be held and nests no deeper than a bound.
* `Json.IsReadable`: the document can be held.
* `Json.IsTagged`: an object that starts with its kind.

## Main results

* `Json.NestsWithin.of_object`: the members of an object nest within a smaller bound.
* `Json.isReadable_object`, `Json.isReadable_array`: a document can be held if its parts can.
* `Json.tagged?_taggedObject`, `Json.record?_object`: kinds and members are read back.
* `Json.toList?_map`: lists are read back.
* `Record.required?_cons_self`, `Record.optional?_cons_self`: single members are read.
-/

namespace DartClient

namespace Json

variable {bound depth : Nat} {items : List Json} {members : List (String × Json)} {json : Json}

/-! ## Nesting -/

/-- The document can be held and nests no deeper than a bound. -/
def NestsWithin (bound : Nat) (json : Json) : Prop := ∃ depth ≤ bound, json.depth? = some depth

/-- The document can be held. -/
def IsReadable (json : Json) : Prop := ∃ bound, json.NestsWithin bound

theorem NestsWithin.mono {bound' : Nat} (h : json.NestsWithin bound) (hle : bound ≤ bound') :
    json.NestsWithin bound' :=
  h.imp fun _ ⟨hdepth, hjson⟩ => ⟨Nat.le_trans hdepth hle, hjson⟩

theorem depthOfItems?_le_iff : (∃ depth ≤ bound, depthOfItems? items = some depth) ↔
    ∀ item ∈ items, item.NestsWithin bound := by
  induction items with
  | nil => simp [depthOfItems?]
  | cons item items ih =>
    rw [List.forall_mem_cons, ← ih, depthOfItems?, NestsWithin]
    cases item.depth? <;> cases depthOfItems? items <;> simp [Nat.max_le]

theorem depthOfMembers?_le_iff : (∃ depth ≤ bound, depthOfMembers? members = some depth) ↔
    ∀ member ∈ members, member.2.NestsWithin bound := by
  induction members with
  | nil => simp [depthOfMembers?]
  | cons member members ih =>
    obtain ⟨name, value⟩ := member
    rw [List.forall_mem_cons, ← ih, depthOfMembers?, NestsWithin]
    cases value.depth? <;> cases depthOfMembers? members <;> simp [Nat.max_le]

theorem nestsWithin_array_iff : (Json.array items).NestsWithin bound ↔
    0 < bound ∧ ∀ item ∈ items, item.NestsWithin (bound - 1) := by
  rw [← depthOfItems?_le_iff, NestsWithin, depth?]
  cases depthOfItems? items with
  | none => simp
  | some depth =>
    simp only [Option.pure_def, Option.bind_eq_bind, Option.bind_some, Option.some.injEq,
      exists_eq_right']
    omega

theorem nestsWithin_object_iff : (Json.object members).NestsWithin bound ↔
    0 < bound ∧ ∀ member ∈ members, member.2.NestsWithin (bound - 1) := by
  rw [← depthOfMembers?_le_iff, NestsWithin, depth?]
  cases depthOfMembers? members with
  | none => simp
  | some depth =>
    simp only [Option.pure_def, Option.bind_eq_bind, Option.bind_some, Option.some.injEq,
      exists_eq_right']
    omega

/-- The members of an object nest within a smaller bound. -/
theorem NestsWithin.of_object (h : (Json.object members).NestsWithin (bound + 1)) :
    ∀ member ∈ members, member.2.NestsWithin bound := (nestsWithin_object_iff.mp h).2

/-- They also nest within the bound of the object. -/
theorem NestsWithin.member (h : (Json.object members).NestsWithin bound)
    (member : String × Json) (hmember : member ∈ members) : member.2.NestsWithin bound :=
  ((nestsWithin_object_iff.mp h).2 member hmember).mono (Nat.sub_le bound 1)

theorem NestsWithin.item (h : (Json.array items).NestsWithin bound) :
    ∀ item ∈ items, item.NestsWithin bound :=
  fun item hitem => ((nestsWithin_array_iff.mp h).2 item hitem).mono (Nat.sub_le bound 1)

theorem NestsWithin.pos_of_object (h : (Json.object members).NestsWithin bound) : 0 < bound :=
  (nestsWithin_object_iff.mp h).1

/-- The members of a tagged value nest within a smaller bound. -/
theorem NestsWithin.of_taggedObject {kind : String}
    (h : (Idl.taggedObject kind members).NestsWithin (bound + 1)) :
    ∀ member ∈ members, member.2.NestsWithin bound := (List.forall_mem_cons.mp h.of_object).2

/-- What nests within bounds of their own nests within a common one. -/
theorem exists_common_bound {α : Type} {part : α → Json} {parts : List α}
    (h : ∀ a ∈ parts, (part a).IsReadable) :
    ∃ bound, ∀ a ∈ parts, (part a).NestsWithin bound := by
  induction parts with
  | nil => exact ⟨0, fun _ h => by cases h⟩
  | cons first parts ih =>
    obtain ⟨⟨bound, hfirst⟩, hparts⟩ := List.forall_mem_cons.mp h
    obtain ⟨bound', hrest⟩ := ih hparts
    refine ⟨max bound bound', List.forall_mem_cons.mpr ⟨hfirst.mono (Nat.le_max_left _ _), ?_⟩⟩
    exact fun a ha => (hrest a ha).mono (Nat.le_max_right _ _)

/-- An array can be held if all of its items can. -/
@[simp] theorem isReadable_array :
    (Json.array items).IsReadable ↔ ∀ item ∈ items, item.IsReadable := by
  constructor
  · rintro ⟨bound, h⟩ item hitem
    exact ⟨_, (nestsWithin_array_iff.mp h).2 item hitem⟩
  · intro h
    obtain ⟨bound, hbound⟩ := exists_common_bound h
    exact ⟨bound + 1, nestsWithin_array_iff.mpr ⟨Nat.succ_pos bound, hbound⟩⟩

/-- An object can be held if all of its members can. -/
@[simp] theorem isReadable_object :
    (Json.object members).IsReadable ↔ ∀ member ∈ members, member.2.IsReadable := by
  constructor
  · rintro ⟨bound, h⟩ member hmember
    exact ⟨_, (nestsWithin_object_iff.mp h).2 member hmember⟩
  · intro h
    obtain ⟨bound, hbound⟩ := exists_common_bound h
    exact ⟨bound + 1, nestsWithin_object_iff.mpr ⟨Nat.succ_pos bound, hbound⟩⟩

@[simp] theorem isReadable_string (text : String) : (Json.string text).IsReadable :=
  ⟨0, 0, Nat.le_refl 0, rfl⟩

@[simp] theorem isReadable_bool (value : Bool) : (Json.bool value).IsReadable :=
  ⟨0, 0, Nat.le_refl 0, rfl⟩

@[simp] theorem isReadable_number (value : Json.Number) : (Json.number value).IsReadable :=
  ⟨0, 0, Nat.le_refl 0, rfl⟩

/-! ## Records -/

/-- A record with members of known names, no two of them alike, is read as its members. -/
theorem record?_object {names : List String} (hknown : ∀ member ∈ members, member.1 ∈ names)
    (hdistinct : (members.map Prod.fst).Nodup) :
    record? names (.object members) = some members := by
  have hfilter : members.filter (fun member => names.contains member.1) = members :=
    List.filter_eq_self.mpr fun member hmember => List.contains_iff_mem.mpr (hknown member hmember)
  rw [record?]
  simp only [hfilter, hdistinct, if_true]

/-! ## Tagged values -/

/-- An object that starts with its kind and has no other member of that name. -/
def IsTagged (json : Json) : Prop :=
  ∃ kind members, "kind" ∉ members.map Prod.fst ∧ json = Idl.taggedObject kind members

variable {kind : String}

theorem untag?_taggedObject (h : "kind" ∉ members.map Prod.fst) :
    (Idl.taggedObject kind members).untag? = some (.string kind, .object members) := by
  have hother : ∀ member ∈ members, member.1 ≠ "kind" := by
    intro member hmember heq
    exact h (heq ▸ List.mem_map_of_mem hmember)
  have hkind : members.filter (fun member => member.1 == "kind") = [] :=
    List.filter_eq_nil_iff.mpr fun member hmember => by simpa using hother member hmember
  have hrest : members.filter (fun member => member.1 != "kind") = members :=
    List.filter_eq_self.mpr fun member hmember => by simpa using hother member hmember
  simp [untag?, Idl.taggedObject, hkind, hrest]

/-- **An object that starts with its kind is read as that kind** and the members behind it. -/
theorem tagged?_taggedObject {kinds : List String} (h : "kind" ∉ members.map Prod.fst) :
    (Idl.taggedObject kind members).tagged? kinds = some (kind, .object members) := by
  simp [tagged?, untag?_taggedObject h, kindName?]

theorem isTagged_taggedObject (h : "kind" ∉ members.map Prod.fst) :
    (Idl.taggedObject kind members).IsTagged := ⟨kind, members, h, rfl⟩

namespace IsTagged

theorem ne_null (h : json.IsTagged) : json ≠ .null := by
  obtain ⟨kind, members, -, rfl⟩ := h
  exact Json.noConfusion

theorem pos_of_nestsWithin (h : json.IsTagged) (hnests : json.NestsWithin bound) : 0 < bound := by
  obtain ⟨kind, members, -, rfl⟩ := h
  exact hnests.pos_of_object

/-- A tagged value that can be held may stand by itself. -/
theorem standalone?_eq (h : json.IsTagged) (hreadable : json.IsReadable) :
    json.standalone? = some json := by
  obtain ⟨kind, members, hkind, rfl⟩ := h
  obtain ⟨bound, depth, -, hdepth⟩ := hreadable
  simp [standalone?, hdepth, untag?_taggedObject hkind, toText?]

end IsTagged

/-! ## Lists -/

/-- A list whose items are read back is read back. -/
theorem toList?_map {α : Type} {write : α → Json} {read : Json → Option α} {values : List α}
    (h : ∀ value ∈ values, read (write value) = some value) :
    toList? read (.array (values.map write)) = some values := by
  rw [toList?]
  induction values with
  | nil => rfl
  | cons value values ih =>
    obtain ⟨hvalue, hvalues⟩ := List.forall_mem_cons.mp h
    simp [hvalue, ih hvalues]

/-- A list that is read back has items that are. -/
theorem read_of_toList?_map {α : Type} {write : α → Json} {read : Json → Option α}
    {values : List α} (h : toList? read (.array (values.map write)) = some values) :
    ∀ value ∈ values, read (write value) = some value := by
  rw [toList?] at h
  induction values with
  | nil => exact fun _ h => by cases h
  | cons value values ih =>
    rw [List.map_cons, List.mapM_cons] at h
    obtain ⟨first, hfirst, h⟩ := Option.bind_eq_some_iff.mp h
    obtain ⟨rest, hrest, h⟩ := Option.bind_eq_some_iff.mp h
    obtain ⟨rfl, rfl⟩ := List.cons.inj (Option.some.inj h)
    exact List.forall_mem_cons.mpr ⟨hfirst, ih hrest⟩

@[simp] theorem toText?_string (text : String) : (Json.string text).toText? = some text := rfl

@[simp] theorem toTexts?_textsToJson (texts : List String) :
    (Idl.textsToJson texts).toTexts? = some texts := toList?_map fun _ _ => rfl

@[simp] theorem toNat?_natToJson (n : Nat) : (Idl.natToJson n).toNat? = some n := rfl

end Json

/-! ## Members -/

namespace Record

variable {α : Type} {record : Record} {name key : String} {json : Json} {read : Json → Option α}
  {default : α}

theorem lookup_cons_of_ne (h : name ≠ key) :
    List.lookup name ((key, json) :: record) = List.lookup name record := by
  rw [List.lookup_cons, beq_false_of_ne h]

@[simp] theorem required?_cons_self : required? ((name, json) :: record) name read = read json := by
  rw [required?, List.lookup_cons_self, Option.bind_some]

@[simp] theorem required?_cons_of_ne (h : name ≠ key) :
    required? ((key, json) :: record) name read = required? record name read := by
  rw [required?, required?, lookup_cons_of_ne h]

@[simp] theorem withDefault?_cons_self :
    withDefault? ((name, json) :: record) name read default = read json := by
  rw [withDefault?, List.lookup_cons_self]

@[simp] theorem withDefault?_cons_of_ne (h : name ≠ key) :
    withDefault? ((key, json) :: record) name read default =
      withDefault? record name read default := by
  rw [withDefault?, withDefault?, lookup_cons_of_ne h]

@[simp] theorem optional?_nil : optional? [] name read = some none := rfl

/-- An optional member that is there is read as it is. -/
@[simp] theorem optional?_cons_self (h : json ≠ .null) :
    optional? ((name, json) :: record) name read = (read json).map some := by
  rw [optional?, List.lookup_cons_self]
  cases json with
  | null => exact absurd rfl h
  | _ => rfl

@[simp] theorem optional?_cons_of_ne (h : name ≠ key) :
    optional? ((key, json) :: record) name read = optional? record name read := by
  rw [optional?, optional?, lookup_cons_of_ne h]

end Record

end DartClient
