import DartClient.Proofs.Manifest.Layout

/-!
# The links of a type

Which links the resolver meets on its way through a type. It follows a link to an alias into the
type that the alias stands for, and stops at a link to a class. Two resolvers that find the same
behind every link that one of them meets resolve a type alike, and a type that is resolved has no
link to a type that is not declared.

## Main definitions

* `Idl.TypeNode.parts`: the types directly inside a type.
* `Resolver.Meets`: the links on the way through a type.
* `SameTarget`: links that lead to the same.

## Main results

* `Resolver.resolve_eq_of_sameTarget`: resolving depends on nothing but the links that are met.
* `Resolver.isSome_of_meets`: every link on the way through a resolved type is declared.
-/

namespace DartClient

open Idl (TypeNode StructField EnumVariant NumberType NumberFormat Count BytesEncoding DefinedType)

/-- The types directly inside a type. -/
def Idl.TypeNode.parts : TypeNode → List TypeNode
  | .array item _ | .option item _ _ | .set item _ | .fixedSize item _ | .sizePrefix item _ =>
    [item]
  | .map key value _ => [key, value]
  | .tuple items => items
  | .struct fields => fields.map StructField.type
  | .enum variants _ => variants.flatMap variantTypes
  | _ => []

/-- The links lead to classes of one shape, to one alias, or nowhere. -/
def SameTarget : Option DefinedType → Option DefinedType → Prop
  | some defined, some defined' =>
    DefinedShape.ofType defined.type = DefinedShape.ofType defined'.type ∧
      (DefinedShape.ofType defined.type = .synonym → defined.type = defined'.type)
  | none, none => True
  | _, _ => False

theorem SameTarget.refl (target : Option DefinedType) : SameTarget target target := by
  cases target with
  | none => trivial
  | some defined => exact ⟨rfl, fun _ => rfl⟩

namespace Resolver

/-- What a link leads to. -/
def target (resolver : Resolver) (name : String) (program : Option String) : Option DefinedType :=
  resolver.dictionary.definedType? resolver.program name program

/-- The links on the way through a type. Links to aliases are followed. -/
inductive Meets (resolver : Resolver) : TypeNode → String → Option String → Prop
  | link (name : String) (program : Option String) :
    Meets resolver (.link name program) name program
  | part {node part : TypeNode} {name : String} {program : Option String}
      (hpart : part ∈ node.parts) (h : Meets resolver part name program) :
    Meets resolver node name program
  | synonym {link : String} {linkProgram : Option String} {defined : DefinedType} {name : String}
      {program : Option String}
      (htarget : resolver.target link linkProgram = some defined)
      (hshape : DefinedShape.ofType defined.type = .synonym)
      (h : Meets resolver defined.type name program) :
      Meets resolver (.link link linkProgram) name program

section Inversion

variable {resolver : Resolver} {name : String} {program : Option String}

/-- The links on the way through a type that is no link are on the way through its parts. -/
theorem exists_part_of_meets {node : TypeNode} (hlink : ∀ name program, node ≠ .link name program)
    (h : resolver.Meets node name program) :
    ∃ part, part ∈ node.parts ∧ resolver.Meets part name program := by
  cases h with
  | link | synonym => exact absurd rfl (hlink _ _)
  | part hpart hmeets => exact ⟨_, hpart, hmeets⟩

/-- Behind a link to a type without parts there are no links. -/
theorem eq_of_meets_link {link : String} {linkProgram : Option String} {defined : DefinedType}
    (htarget : resolver.target link linkProgram = some defined) (hparts : defined.type.parts = [])
    (hlink : ∀ name program, defined.type ≠ .link name program)
    (h : resolver.Meets (.link link linkProgram) name program) :
    name = link ∧ program = linkProgram := by
  cases h with
  | link => exact ⟨rfl, rfl⟩
  | part hpart _ => cases hpart
  | synonym htarget' _ hmeets =>
    obtain rfl := Option.some.inj (htarget.symm.trans htarget')
    obtain ⟨part, hpart, -⟩ := exists_part_of_meets hlink hmeets
    rw [hparts] at hpart
    cases hpart

end Inversion

/-! ## Resolvers that agree -/

section Congruence

variable {resolver resolver' : Resolver} {child child' : ResolveChild} {ctx : ResolveContext}

theorem mapM_congr {α β : Type} {step step' : α → Resolved β} {items : List α}
    (h : ∀ item ∈ items, step item = step' item) : items.mapM step = items.mapM step' := by
  induction items with
  | nil => rfl
  | cons item items ih =>
    have htail := ih fun other hother => h other (List.mem_cons_of_mem item hother)
    rw [List.mapM_cons, List.mapM_cons, h item List.mem_cons_self, htail]

theorem tupleManifest_congr {items : List TypeNode}
    (h : ∀ item ∈ items, child item = child' item) :
    tupleManifest child ctx items = tupleManifest child' ctx items := by
  unfold tupleManifest
  rw [mapM_congr fun item hitem => congrFun (h item hitem) ctx.item]

theorem fieldManifest_congr {field : StructField} (h : child field.type = child' field.type) :
    fieldManifest child ctx field = fieldManifest child' ctx field := by
  unfold fieldManifest
  rw [h]

theorem structManifest_congr {fields : List StructField}
    (h : ∀ part ∈ fields.map StructField.type, child part = child' part) :
    structManifest child ctx fields = structManifest child' ctx fields := by
  unfold structManifest
  rw [mapM_congr fun field hfield =>
    fieldManifest_congr (h field.type (List.mem_map_of_mem hfield))]

theorem payloadItems_congr {items : List TypeNode} : ∀ {position : Nat},
    (∀ part ∈ items, child part = child' part) →
    payloadItems child ctx position items = payloadItems child' ctx position items := by
  induction items with
  | nil => exact fun _ => rfl
  | cons item items ih =>
    intro position h
    unfold payloadItems payloadItem
    rw [h item List.mem_cons_self, ih fun part hpart => h part (List.mem_cons_of_mem item hpart)]

theorem variantPayload_congr {variant : EnumVariant}
    (h : ∀ part ∈ variantTypes variant, child part = child' part) :
    variantPayload child ctx variant = variantPayload child' ctx variant := by
  cases variant with
  | empty name => rfl
  | tuple name items =>
    have hitems : ∀ part ∈ items, child part = child' part := h
    simp only [variantPayload, payloadItems_congr hitems]
  | struct name fields =>
    have hfields : ∀ part ∈ fields.map StructField.type, child part = child' part := h
    simp only [variantPayload, structManifest_congr hfields]

theorem variantManifests_congr {variants : List EnumVariant} : ∀ {index : Nat},
    (∀ part ∈ variants.flatMap variantTypes, child part = child' part) →
    variantManifests child ctx index variants = variantManifests child' ctx index variants := by
  induction variants with
  | nil => exact fun _ => rfl
  | cons variant variants ih =>
    intro index h
    rw [List.flatMap_cons] at h
    have hvariant : ∀ ctx, variantPayload child ctx variant = variantPayload child' ctx variant :=
      fun _ => variantPayload_congr fun part hpart => h part (List.mem_append_left _ hpart)
    have htail : ∀ index, variantManifests child ctx index variants =
        variantManifests child' ctx index variants :=
      fun _ => ih fun part hpart => h part (List.mem_append_right _ hpart)
    simp only [variantManifests, hvariant, htail]

/-- One level depends on the levels below at the parts of the type, and on what its links find. -/
theorem resolveLevel_congr {node : TypeNode}
    (hparts : ∀ part ∈ node.parts, child part = child' part)
    (hlink : ∀ name program, node = .link name program →
      resolver.linkManifest child ctx name program =
        resolver'.linkManifest child' ctx name program) :
    resolver.resolveLevel child node ctx = resolver'.resolveLevel child' node ctx := by
  unfold resolveLevel
  split
  · rfl
  · cases node
    case array item count | option item flag isFixed | set item count =>
      simp only [hparts item List.mem_cons_self]
    case map key value count =>
      simp only [hparts key List.mem_cons_self,
        hparts value (List.mem_cons_of_mem key List.mem_cons_self)]
    case tuple items =>
      have hitems : ∀ item ∈ items, child item = child' item := hparts
      simp only [tupleManifest_congr hitems]
    -- The type below a size is looked at, but only to see whether it is a text or bytes.
    case fixedSize inner size | sizePrefix inner width =>
      have hinner := hparts inner List.mem_cons_self
      cases inner
      all_goals simp only [hinner]
    case link name program => exact hlink name program rfl
    case struct fields => exact structManifest_congr hparts
    case enum variants size =>
      have hvariants : ∀ part ∈ variants.flatMap variantTypes, child part = child' part := hparts
      simp only [enumManifest, variantManifests_congr hvariants]
    all_goals rfl

/-- A link is resolved alike if it leads to the same, and if the type behind it is resolved alike
where that type is an alias. -/
theorem linkManifest_congr {name : String} {program program' : Option String}
    (htarget : SameTarget (resolver.target name program) (resolver'.target name program'))
    (hchild : ∀ defined, resolver.target name program = some defined →
      DefinedShape.ofType defined.type = .synonym → child defined.type = child' defined.type) :
    resolver.linkManifest child ctx name program =
      resolver'.linkManifest child' ctx name program' := by
  unfold target at htarget hchild
  unfold linkManifest
  cases hdefined : resolver.dictionary.definedType? resolver.program name program with
  | none =>
    cases hdefined' : resolver'.dictionary.definedType? resolver'.program name program' with
    | none => rfl
    | some defined' =>
      rw [hdefined, hdefined'] at htarget
      exact htarget.elim
  | some defined =>
    cases hdefined' : resolver'.dictionary.definedType? resolver'.program name program' with
    | none =>
      rw [hdefined, hdefined'] at htarget
      exact htarget.elim
    | some defined' =>
      rw [hdefined, hdefined'] at htarget
      -- A class gives nothing but its shape, so its fields may differ.
      obtain ⟨hshape, htype⟩ := htarget
      simp only [← hshape]
      cases hsynonym : DefinedShape.ofType defined.type with
      | struct | enum => rfl
      | synonym => simp only [← htype hsynonym, hchild defined hdefined hsynonym]

end Congruence

/-! ## All levels -/

variable {resolver resolver' : Resolver}

/-- **Resolving depends on nothing but the links that are met**, on every level. -/
theorem resolveWithin_eq_of_sameTarget {levels : Nat} : ∀ {node : TypeNode},
    (∀ name program, resolver.Meets node name program →
      SameTarget (resolver.target name program) (resolver'.target name program)) →
    resolver.resolveWithin levels node = resolver'.resolveWithin levels node := by
  -- A link goes one level down, so also a cycle of aliases comes to an end.
  induction levels with
  | zero => exact fun _ => rfl
  | succ levels ih =>
    intro node h
    funext ctx
    refine resolveLevel_congr (fun part hpart => ?_) fun name program hnode => ?_
    · exact ih fun name program hmeets => h name program (.part hpart hmeets)
    · subst hnode
      refine linkManifest_congr (h name program (.link name program)) ?_
      intro defined htarget hshape
      exact ih fun link linkProgram hmeets => h link linkProgram (.synonym htarget hshape hmeets)

/-- Everything directly inside a type with a layout has a layout. -/
theorem exists_lays_of_mem_parts {node part : TypeNode} {codec : Codec}
    (h : resolver.Lays node codec) (hpart : part ∈ node.parts) :
    ∃ partCodec, resolver.Lays part partCodec := by
  cases h with
  | number | amount | solAmount | dateTime | boolean | string | bytes | publicKey | reference
  | synonym | unknown => simp [TypeNode.parts] at hpart
  | array _ hitem | option _ _ hitem | set _ hitem | fixedSize _ _ _ hitem
  | sizePrefix _ _ _ hitem =>
    obtain rfl := List.mem_singleton.mp hpart
    exact ⟨_, hitem⟩
  -- Numbers, texts and bytes have layouts of their own, also where they are folded away.
  | typedArray format size =>
    obtain rfl := List.mem_singleton.mp hpart
    exact ⟨_, .number format⟩
  | fixedText | prefixedText =>
    obtain rfl := List.mem_singleton.mp hpart
    exact ⟨_, .string⟩
  | fixedBytes | prefixedBytes =>
    obtain rfl := List.mem_singleton.mp hpart
    exact ⟨_, .bytes⟩
  | map _ hkey hvalue =>
    rcases List.mem_cons.mp hpart with rfl | hpart
    · exact ⟨_, hkey⟩
    · obtain rfl := List.mem_singleton.mp hpart
      exact ⟨_, hvalue⟩
  | tuple hlength hzip =>
    obtain ⟨itemCodec, hitem⟩ := exists_mem_zip hlength hpart
    exact ⟨itemCodec, hzip _ hitem⟩
  | struct name hnames hzip =>
    obtain ⟨field, hfield, rfl⟩ := List.mem_map.mp hpart
    obtain ⟨fieldCodec, hmem⟩ := exists_mem_zip hnames.length_eq hfield
    exact ⟨fieldCodec.codec, hzip _ hmem⟩
  | enum name size hlength hforms hzip =>
    obtain ⟨variant, hvariant, hitem⟩ := List.mem_flatMap.mp hpart
    obtain ⟨variantCodec, hmem⟩ := exists_mem_zip hlength hvariant
    obtain ⟨itemCodec, hmem'⟩ :=
      exists_mem_zip (length_codecs_of_hasForm (hforms _ hmem)) hitem
    exact ⟨itemCodec, hzip _ hmem _ hmem'⟩

/-- **Every link on the way through a type with a layout is declared.** -/
theorem isSome_of_meets {node : TypeNode} {name : String} {program : Option String}
    (hmeets : resolver.Meets node name program) : ∀ {codec}, resolver.Lays node codec →
      (resolver.target name program).isSome := by
  -- The induction follows the way to the link, and the layout is taken apart along it.
  induction hmeets with
  | link name program =>
    intro codec h
    cases h with
    | reference _ hdefined _ | synonym hdefined _ _ => exact Option.isSome_of_eq_some hdefined
  | part hpart _ ih =>
    intro codec h
    obtain ⟨partCodec, hlays⟩ := exists_lays_of_mem_parts h hpart
    exact ih hlays
  | synonym htarget hshape _ ih =>
    intro codec h
    cases h with
    | reference _ hdefined hclass =>
      obtain rfl := Option.some.inj (htarget.symm.trans hdefined)
      exact absurd hshape hclass
    | synonym hdefined _ hlays =>
      obtain rfl := Option.some.inj (htarget.symm.trans hdefined)
      exact ih hlays

end Resolver

end DartClient
