import DartClient.Proofs.Manifest.Links

/-!
# Which types are resolved

The resolver goes down through a type, and every type that it visits on its way has to be one that
can be expressed: at a depth of at most 64, with little endian numbers and texts in UTF-8, no type
that alters the layout of others, and no link to a type that is not declared. These conditions are
told here apart from the resolver, as a property of the types that are visited, and they are exactly
what it takes.

Every step adds to the depth. A type that is visited again below itself is therefore visited at any
depth, and it is refused; so an alias that leads back to itself never has a manifest.

## Main definitions

* `Idl.TypeNode.numbers`, `Idl.TypeNode.encodings`: what a type itself is written with.
* `Resolver.below`, `Resolver.Visits`: the types that are visited below a type.
* `Resolver.Expressible`: what a visited type has to be like.

## Main results

* `Resolver.succeeds_resolveLevel_iff`: what one level takes.
* `Resolver.resolves_iff`: a type is resolved if and only if all visited types can be expressed, and
  an alias that leads back to itself is not.
-/

namespace DartClient

open Idl (TypeNode StructField EnumVariant NumberType NumberFormat Count BytesEncoding DefinedType)

/-! ## What a type is written with -/

namespace Idl.TypeNode

/-- The numbers that a type itself is written with: numbers, the numbers that flags are written as,
and the numbers in front of options, lists, sized types and enums. -/
@[simp] def numbers : TypeNode → List NumberType
  | .number type | .amount type | .solAmount type | .dateTime type => [type]
  | .boolean size | .enum _ size => [size]
  | .array _ (.prefixed width) | .set _ (.prefixed width) | .map _ _ (.prefixed width) => [width]
  | .sizePrefix _ width => [width]
  | .option _ flag _ => [flag]
  | _ => []

/-- The encodings of a text and of a text directly inside a size. -/
@[simp] def encodings : TypeNode → List BytesEncoding
  | .string encoding | .fixedSize (.string encoding) _ | .sizePrefix (.string encoding) _ =>
    [encoding]
  | _ => []

end Idl.TypeNode

namespace Resolver

/-- The types that are visited one step below a type, with the number by which each is deeper. The
number in a typed list and a text or bytes directly inside a size are not visited. -/
def below (resolver : Resolver) : TypeNode → List (TypeNode × Nat)
  | .array item count =>
    match count, typedItem? item with
    | .fixed _, some _ => []
    | _, _ => [(item, 1)]
  | .option item _ _ | .set item _ => [(item, 1)]
  | .fixedSize inner _ | .sizePrefix inner _ =>
    match inner with
    | .string _ | .bytes => []
    | inner => [(inner, 1)]
  | .map key value _ => [(key, 1), (value, 1)]
  | .tuple items => items.map fun item => (item, 1)
  | .struct fields => fields.map fun field => (field.type, 1)
  | .enum variants _ => (variants.flatMap variantTypes).map fun item => (item, 2)
  | .link name program =>
    match resolver.target name program with
    | some defined =>
      match DefinedShape.ofType defined.type with
      | .synonym => [(defined.type, 1)]
      | _ => []
    | none => []
  | _ => []

theorem below_link_of_synonym {resolver : Resolver} {name : String} {program : Option String}
    {defined : DefinedType} (htarget : resolver.target name program = some defined)
    (hshape : DefinedShape.ofType defined.type = .synonym) :
    resolver.below (.link name program) = [(defined.type, 1)] := by
  simp only [below, htarget, hshape]

theorem below_link_of_class {resolver : Resolver} {name : String} {program : Option String}
    {defined : DefinedType} (htarget : resolver.target name program = some defined)
    (hshape : DefinedShape.ofType defined.type ≠ .synonym) :
    resolver.below (.link name program) = [] := by
  simp only [below, htarget]

/-- A type is visited at a depth below another one. -/
inductive Visits (resolver : Resolver) : TypeNode → TypeNode → Nat → Prop
  | refl (node : TypeNode) : Visits resolver node node 0
  | step {node next part : TypeNode} {cost depth : Nat} (hbelow : (next, cost) ∈ resolver.below node)
      (h : Visits resolver next part depth) : Visits resolver node part (cost + depth)

/-- A type, regardless of what is visited below it, can be expressed. -/
structure Expressible (resolver : Resolver) (node : TypeNode) : Prop where
  /-- Numbers are little endian. -/
  little : ∀ number ∈ node.numbers, number.endian = .little
  /-- Texts are in UTF-8. -/
  utf8 : ∀ encoding ∈ node.encodings, encoding = .utf8
  /-- The layout of no other type is altered. -/
  unaltered : ∀ kind, node ≠ .altered kind
  /-- Links lead to types that are declared. -/
  declared : ∀ name program, node = .link name program → (resolver.target name program).isSome

theorem expressible_iff {resolver : Resolver} {node : TypeNode} : resolver.Expressible node ↔
    (∀ number ∈ node.numbers, number.endian = .little) ∧
      (∀ encoding ∈ node.encodings, encoding = .utf8) ∧ (∀ kind, node ≠ .altered kind) ∧
      ∀ name program, node = .link name program → (resolver.target name program).isSome :=
  ⟨fun h => ⟨h.little, h.utf8, h.unaltered, h.declared⟩,
    fun ⟨little, utf8, unaltered, declared⟩ => ⟨little, utf8, unaltered, declared⟩⟩

end Resolver

/-! ## Steps that succeed -/

/-- The step gives a result. -/
def Resolved.Succeeds {α : Type} (step : Resolved α) : Prop := ∃ a, step = .ok a

namespace Resolved

variable {α β : Type}

@[simp] theorem succeeds_ok (a : α) : Succeeds (.ok a : Resolved α) := ⟨a, rfl⟩

@[simp] theorem succeeds_pure (a : α) : Succeeds (pure a : Resolved α) := ⟨a, rfl⟩

@[simp] theorem not_succeeds_error (error : ClientError) :
    ¬ Succeeds (.error error : Resolved α) := by
  rintro ⟨a, h⟩
  cases h

@[simp] theorem not_succeeds_refuse (kind : String) (ctx : ResolveContext) (fault : TypeFault) :
    ¬ Succeeds (refuse kind ctx fault : Resolved α) := not_succeeds_error _

/-- A sequence succeeds if its first step does and if the rest does, which mostly does not depend on
the result of the first step. -/
theorem succeeds_bind_iff {step : Resolved α} {next : α → Resolved β} {P : Prop}
    (h : ∀ a, step = .ok a → (Succeeds (next a) ↔ P)) : Succeeds (step >>= next) ↔ Succeeds step ∧ P := by
  cases step with
  | error error =>
    refine iff_of_false (not_succeeds_error error) ?_
    rintro ⟨hstep, -⟩
    exact not_succeeds_error error hstep
  | ok a =>
    show Succeeds (next a) ↔ _
    rw [h a rfl, and_iff_right (succeeds_ok a)]

@[simp] theorem succeeds_map_iff {step : Resolved α} {f : α → β} :
    Succeeds (do return f (← step)) ↔ Succeeds step := by
  rw [succeeds_bind_iff (P := True) fun a _ => iff_of_true (succeeds_pure (f a)) trivial, and_true]

theorem succeeds_mapM_iff {step : α → Resolved β} {items : List α} :
    Succeeds (items.mapM step) ↔ ∀ item ∈ items, Succeeds (step item) := by
  induction items with
  | nil => simp [Succeeds, List.mapM_nil, pure, Except.pure]
  | cons item items ih =>
    rw [List.mapM_cons, succeeds_bind_iff fun _ _ => succeeds_map_iff, ih, List.forall_mem_cons]

end Resolved

open Resolved

theorem succeeds_littleEndianFormat_iff {number : NumberType} {kind : String}
    {ctx : ResolveContext} :
    Succeeds (littleEndianFormat number kind ctx) ↔ number.endian = .little := by
  obtain ⟨format, endian⟩ := number
  cases endian <;> simp [littleEndianFormat]

theorem succeeds_numberManifest_iff {number : NumberType} {kind : String} {ctx : ResolveContext} :
    Succeeds (numberManifest number kind ctx) ↔ number.endian = .little := by
  unfold numberManifest
  simp only []
  rw [succeeds_map_iff, succeeds_littleEndianFormat_iff]

theorem succeeds_stringManifest_iff {encoding : BytesEncoding} {length : Length} {kind : String}
    {ctx : ResolveContext} :
    Succeeds (stringManifest encoding length kind ctx) ↔ encoding = .utf8 := by
  unfold stringManifest
  split <;> simp_all

/-- The number in front of items, if there is one, is little endian. -/
theorem succeeds_countLength_iff {count : Count} {kind : String} {ctx : ResolveContext} :
    Succeeds (countLength count kind ctx) ↔
      ∀ width, count = .prefixed width → width.endian = .little := by
  cases count with
  | fixed | remainder => simp [countLength]
  | prefixed width =>
    have hmap : Succeeds (do return Length.prefixed (← littleEndianFormat width kind ctx)) ↔
        Succeeds (littleEndianFormat width kind ctx) := succeeds_map_iff
    apply hmap.trans
    simp [succeeds_littleEndianFormat_iff]

/-! ## One level -/

section Level

variable {child : ResolveChild} {ctx : ResolveContext} {accepts : TypeNode → Nat → Prop}

/-- The types that the level below resolves, which depend on nothing of a context but its depth. -/
def ChildAccepts (child : ResolveChild) (accepts : TypeNode → Nat → Prop) : Prop :=
  ∀ node ctx, Succeeds (child node ctx) ↔ accepts node ctx.depth

theorem succeeds_tupleManifest_iff (hchild : ChildAccepts child accepts) {items : List TypeNode} :
    Succeeds (tupleManifest child ctx items) ↔ ∀ item ∈ items, accepts item (ctx.depth + 1) := by
  unfold tupleManifest
  rw [succeeds_map_iff, succeeds_mapM_iff]
  exact forall₂_congr fun item _ => hchild item ctx.item

theorem succeeds_structManifest_iff (hchild : ChildAccepts child accepts)
    {fields : List StructField} : Succeeds (structManifest child ctx fields) ↔
      ∀ item ∈ fields.map StructField.type, accepts item (ctx.depth + 1) := by
  unfold structManifest
  simp only []
  rw [succeeds_map_iff, succeeds_mapM_iff, List.forall_mem_map]
  refine forall₂_congr fun field _ => ?_
  unfold fieldManifest
  rw [succeeds_map_iff]
  exact hchild field.type _

theorem succeeds_payloadItems_iff (hchild : ChildAccepts child accepts) {items : List TypeNode} :
    ∀ {position : Nat}, Succeeds (payloadItems child ctx position items) ↔
      ∀ item ∈ items, accepts item (ctx.depth + 1) := by
  induction items with
  | nil => simp [payloadItems]
  | cons item items ih =>
    intro position
    unfold payloadItems payloadItem
    rw [succeeds_bind_iff fun _ _ => succeeds_map_iff, ih, List.forall_mem_cons]
    refine and_congr_left fun _ => ?_
    simp only []
    rw [succeeds_map_iff]
    exact hchild item _

theorem succeeds_variantPayload_iff (hchild : ChildAccepts child accepts) {variant : EnumVariant} :
    Succeeds (variantPayload child ctx variant) ↔
      ∀ item ∈ variantTypes variant, accepts item (ctx.depth + 1) := by
  cases variant with
  | empty name => simp [variantPayload, variantTypes]
  | tuple name items =>
    unfold variantPayload
    rw [succeeds_map_iff]
    exact succeeds_payloadItems_iff hchild
  | struct name fields =>
    unfold variantPayload
    rw [succeeds_map_iff]
    exact succeeds_structManifest_iff hchild

/-- The types inside variants are two levels deeper than the enum. -/
theorem succeeds_variantManifests_iff (hchild : ChildAccepts child accepts)
    {variants : List EnumVariant} : ∀ {index : Nat},
    Succeeds (variantManifests child ctx index variants) ↔
      ∀ item ∈ variants.flatMap variantTypes, accepts item (ctx.depth + 2) := by
  induction variants with
  | nil => simp [variantManifests]
  | cons variant variants ih =>
    intro index
    unfold variantManifests
    simp only []
    rw [succeeds_bind_iff fun _ _ => succeeds_map_iff, ih, succeeds_variantPayload_iff hchild,
      List.flatMap_cons, List.forall_mem_append]
    rfl

/-- A link takes a declared type, and an alias is looked through. -/
theorem Resolver.succeeds_linkManifest_iff {resolver : Resolver}
    (hchild : ChildAccepts child accepts) {name : String} {program : Option String} :
    Succeeds (resolver.linkManifest child ctx name program) ↔
      (resolver.target name program).isSome ∧
        ∀ next ∈ resolver.below (.link name program), accepts next.1 (ctx.depth + next.2) := by
  unfold linkManifest
  rw [← target]
  cases htarget : resolver.target name program with
  | none =>
    refine iff_of_false (not_succeeds_error _) ?_
    rintro ⟨hsome, -⟩
    cases hsome
  | some defined =>
    rw [Option.isSome_some, iff_true_intro rfl, true_and]
    by_cases hshape : DefinedShape.ofType defined.type = .synonym
    · simp only [below_link_of_synonym htarget hshape, hshape, List.forall_mem_singleton]
      rw [succeeds_map_iff]
      exact hchild defined.type _
    · rw [below_link_of_class htarget hshape]
      simp only []
      split
      · simp
      · simp
      · exact absurd ‹_› hshape

/-- An array takes a little endian count, and its item is visited unless it is folded away. -/
theorem Resolver.succeeds_array_iff {resolver : Resolver} (hchild : ChildAccepts child accepts)
    (hdepth : ¬ maxTypeDepth < ctx.depth) {item : TypeNode} {count : Count} :
    Succeeds (resolver.resolveLevel child (.array item count) ctx) ↔
      (∀ width, count = .prefixed width → width.endian = .little) ∧
        ∀ next ∈ resolver.below (.array item count), accepts next.1 (ctx.depth + next.2) := by
  have hitem : Succeeds (child item ctx.item) ↔ accepts item (ctx.depth + 1) := hchild item ctx.item
  unfold resolveLevel
  rw [if_neg hdepth, ← succeeds_countLength_iff]
  apply succeeds_bind_iff
  intro length hlength
  -- Whether the item is folded away depends on the length that the count gives.
  have hcount := countLength_eq_ok_iff.mp hlength
  rcases count with size | ⟨format, endian⟩ | _
  · obtain rfl := Option.some.inj hcount
    cases htyped : typedItem? item with
    | none =>
      simp only [below, htyped, List.forall_mem_singleton]
      rw [succeeds_map_iff, hitem]
    | some typed => simp [below, htyped]
  · cases endian with
    | big => cases hcount
    | little =>
      obtain rfl := Option.some.inj hcount
      simp only [below, List.forall_mem_singleton]
      rw [succeeds_map_iff, hitem]
  · obtain rfl := Option.some.inj hcount
    simp only [below, List.forall_mem_singleton]
    rw [succeeds_map_iff, hitem]

/-- A size takes a text in UTF-8, bytes, or anything else that is visited below it. -/
theorem Resolver.succeeds_fixedSize_iff {resolver : Resolver} (hchild : ChildAccepts child accepts)
    (hdepth : ¬ maxTypeDepth < ctx.depth) {inner : TypeNode} {size : Nat} :
    Succeeds (resolver.resolveLevel child (.fixedSize inner size) ctx) ↔
      (∀ encoding ∈ (TypeNode.fixedSize inner size).encodings, encoding = .utf8) ∧
        ∀ next ∈ resolver.below (.fixedSize inner size), accepts next.1 (ctx.depth + next.2) := by
  unfold resolveLevel
  rw [if_neg hdepth]
  cases inner with
  | string encoding => simp [succeeds_stringManifest_iff, below]
  | bytes => simp [below]
  | _ =>
    simp only []
    rw [succeeds_map_iff, hchild]
    simp [below, ResolveContext.item]

/-- A size that is stored in front takes the same, behind a little endian number. -/
theorem Resolver.succeeds_sizePrefix_iff {resolver : Resolver}
    (hchild : ChildAccepts child accepts) (hdepth : ¬ maxTypeDepth < ctx.depth) {inner : TypeNode}
    {width : NumberType} :
    Succeeds (resolver.resolveLevel child (.sizePrefix inner width) ctx) ↔ width.endian = .little ∧
      (∀ encoding ∈ (TypeNode.sizePrefix inner width).encodings, encoding = .utf8) ∧
        ∀ next ∈ resolver.below (.sizePrefix inner width),
          accepts next.1 (ctx.depth + next.2) := by
  unfold resolveLevel
  rw [if_neg hdepth, ← succeeds_littleEndianFormat_iff]
  apply succeeds_bind_iff
  intro format _
  cases inner with
  | string encoding => simp [succeeds_stringManifest_iff, below]
  | bytes => simp [below]
  | _ =>
    simp only []
    rw [succeeds_map_iff, hchild]
    simp [below, ResolveContext.item]

/-- **What one level takes**: the type is not too deep, it can be expressed, and the level below
resolves what is visited below it. -/
theorem Resolver.succeeds_resolveLevel_iff {resolver : Resolver}
    (hchild : ChildAccepts child accepts) {node : TypeNode} :
    Succeeds (resolver.resolveLevel child node ctx) ↔ ctx.depth ≤ maxTypeDepth ∧
      resolver.Expressible node ∧
        ∀ next ∈ resolver.below node, accepts next.1 (ctx.depth + next.2) := by
  by_cases hdepth : maxTypeDepth < ctx.depth
  · unfold resolveLevel
    rw [if_pos hdepth]
    exact iff_of_false (not_succeeds_refuse _ _ _) fun h => absurd h.1 (by omega)
  rw [and_iff_right (Nat.le_of_not_lt hdepth), expressible_iff]
  have hitem : ∀ item, Succeeds (child item ctx.item) ↔ accepts item (ctx.depth + 1) :=
    fun item => hchild item ctx.item
  -- One case for each kind of type: its step succeeds if it can be expressed, and what is left is
  -- what is visited below it.
  cases node with
  | number number | amount number | solAmount number | dateTime number =>
    simp [resolveLevel, hdepth, succeeds_numberManifest_iff, below]
  | boolean size =>
    simp only [resolveLevel, if_neg hdepth]
    rw [succeeds_map_iff, succeeds_littleEndianFormat_iff]
    simp [below]
  | string encoding => simp [resolveLevel, hdepth, succeeds_stringManifest_iff, below]
  | bytes | publicKey | unknown => simp [resolveLevel, hdepth, below]
  | array item count =>
    rw [succeeds_array_iff hchild hdepth]
    cases count <;> simp
  | option item flag isFixed =>
    simp only [resolveLevel, if_neg hdepth]
    rw [succeeds_bind_iff fun _ _ => succeeds_map_iff, succeeds_littleEndianFormat_iff, hitem]
    simp [below]
  | set item count =>
    simp only [resolveLevel, if_neg hdepth]
    rw [succeeds_bind_iff fun _ _ => succeeds_map_iff, succeeds_countLength_iff, hitem]
    cases count <;> simp [below]
  | map key value count =>
    simp only [resolveLevel, if_neg hdepth]
    rw [succeeds_bind_iff fun _ _ => succeeds_bind_iff fun _ _ => succeeds_map_iff,
      succeeds_countLength_iff, hitem, hitem]
    cases count <;> simp [below]
  | tuple items => simp [resolveLevel, hdepth, succeeds_tupleManifest_iff hchild, below]
  | fixedSize inner size =>
    rw [succeeds_fixedSize_iff hchild hdepth]
    simp
  | sizePrefix inner width =>
    rw [succeeds_sizePrefix_iff hchild hdepth]
    simp [and_assoc]
  | link name program =>
    rw [resolveLevel, if_neg hdepth, succeeds_linkManifest_iff hchild]
    simp
  | struct fields => simp [resolveLevel, hdepth, succeeds_structManifest_iff hchild, below]
  | enum variants size =>
    simp only [resolveLevel, if_neg hdepth, enumManifest]
    rw [succeeds_bind_iff fun _ _ => succeeds_map_iff, succeeds_littleEndianFormat_iff,
      succeeds_variantManifests_iff hchild]
    simp only [below, List.forall_mem_map]
    simp
  | altered kind => simp [resolveLevel, hdepth]

end Level

/-! ## All levels -/

namespace Resolver

variable {resolver : Resolver}

/-- What so many levels resolve at a depth. -/
def Accepts (resolver : Resolver) : Nat → TypeNode → Nat → Prop
  | 0, _, _ => False
  | levels + 1, node, depth => depth ≤ maxTypeDepth ∧ resolver.Expressible node ∧
      ∀ next ∈ resolver.below node, resolver.Accepts levels next.1 (depth + next.2)

theorem childAccepts_resolveWithin (levels : Nat) :
    ChildAccepts (resolver.resolveWithin levels) (resolver.Accepts levels) := by
  induction levels with
  | zero =>
    intro node ctx
    exact iff_of_false (not_succeeds_refuse _ _ _) id
  | succ levels ih => exact fun node ctx => succeeds_resolveLevel_iff ih

/-- Every step adds to the depth. -/
theorem pos_of_mem_below {node : TypeNode} {next : TypeNode × Nat}
    (hbelow : next ∈ resolver.below node) : 0 < next.2 := by
  -- What a variant holds is two levels below its enum, and all else is one level below.
  cases node with
  | number | amount | solAmount | dateTime | boolean | string | bytes | publicKey | altered
  | unknown => cases hbelow
  | option | set =>
    obtain rfl := List.mem_singleton.mp hbelow
    exact Nat.one_pos
  | map key value count =>
    obtain rfl | rfl := List.mem_pair.mp hbelow
    · exact Nat.one_pos
    · exact Nat.one_pos
  | array | fixedSize | sizePrefix =>
    simp only [below] at hbelow
    split at hbelow
    all_goals simp_all
  | link name program =>
    cases htarget : resolver.target name program with
    | none => simp [below, htarget] at hbelow
    | some defined =>
      by_cases hshape : DefinedShape.ofType defined.type = .synonym
      · rw [below_link_of_synonym htarget hshape] at hbelow
        obtain rfl := List.mem_singleton.mp hbelow
        exact Nat.one_pos
      · rw [below_link_of_class htarget hshape] at hbelow
        cases hbelow
  | tuple | struct =>
    obtain ⟨part, -, rfl⟩ := List.mem_map.mp hbelow
    exact Nat.one_pos
  | enum variants size =>
    obtain ⟨part, -, rfl⟩ := List.mem_map.mp hbelow
    exact Nat.two_pos

/-- Whatever is visited below a type that some levels resolve is not too deep and expressible. -/
theorem expressible_of_accepts {node part : TypeNode} {below : Nat}
    (hvisits : resolver.Visits node part below) : ∀ {levels depth},
    resolver.Accepts levels node depth → depth + below ≤ maxTypeDepth ∧ resolver.Expressible part := by
  induction hvisits with
  | refl node =>
    intro levels depth h
    cases levels with
    | zero => exact h.elim
    | succ levels => exact ⟨h.1, h.2.1⟩
  | step hbelow _ ih =>
    intro levels depth h
    cases levels with
    | zero => exact h.elim
    | succ levels =>
      rw [← Nat.add_assoc]
      exact ih (h.2.2 _ hbelow)

/-- Enough levels resolve a type below which everything visited is expressible. -/
theorem accepts_of_visits {levels : Nat} : ∀ {node : TypeNode} {depth : Nat},
    (∀ part below, resolver.Visits node part below →
      depth + below ≤ maxTypeDepth ∧ resolver.Expressible part) →
    maxTypeDepth < depth + levels → resolver.Accepts levels node depth := by
  induction levels with
  | zero =>
    intro node depth h hlevels
    have hroot := (h node 0 (.refl node)).1
    omega
  | succ levels ih =>
    intro node depth h hlevels
    obtain ⟨hdepth, hroot⟩ := h node 0 (.refl node)
    refine ⟨hdepth, hroot, fun next hnext => ih (fun part below hvisits => ?_) ?_⟩
    · rw [Nat.add_assoc]
      exact h part _ (.step hnext hvisits)
    -- The level that is used up is made up for by the depth that is gained.
    · have hcost := pos_of_mem_below hnext
      omega

/-- A type is resolved if everything visited below it is expressible, and only then. -/
theorem succeeds_resolve_iff {node : TypeNode} {ctx : ResolveContext} :
    Succeeds (resolver.resolve node ctx) ↔ ∀ part below, resolver.Visits node part below →
      ctx.depth + below ≤ maxTypeDepth ∧ resolver.Expressible part := by
  unfold resolve
  rw [childAccepts_resolveWithin]
  constructor
  · exact fun h part below hvisits => expressible_of_accepts hvisits h
  · intro h
    apply accepts_of_visits h
    unfold levelsBelow
    omega

/-! ## Aliases that lead back to themselves -/

theorem Visits.trans {node middle part : TypeNode} {depth below : Nat}
    (h : resolver.Visits node middle depth) (hpart : resolver.Visits middle part below) :
    resolver.Visits node part (depth + below) := by
  induction h with
  | refl node => rwa [Nat.zero_add]
  | step hbelow _ ih =>
    rw [Nat.add_assoc]
    exact .step hbelow (ih hpart)

/-- A type that is visited below itself is visited at any depth. -/
theorem Visits.exists_deeper {node : TypeNode} {cost : Nat} (h : resolver.Visits node node cost)
    (hcost : 0 < cost) (bound : Nat) : ∃ depth, bound ≤ depth ∧ resolver.Visits node node depth := by
  induction bound with
  | zero => exact ⟨cost, Nat.zero_le cost, h⟩
  | succ bound ih =>
    obtain ⟨depth, hdepth, hdeep⟩ := ih
    exact ⟨depth + cost, by omega, hdeep.trans h⟩

/-- An alias leads back to itself: through further aliases and through the parts of types, its type
comes to a link to it. -/
def LeadsBack (resolver : Resolver) (defined : DefinedType) : Prop :=
  DefinedShape.ofType defined.type = .synonym ∧ ∃ name program depth,
    resolver.Visits defined.type (.link name program) depth ∧
      resolver.target name program = some defined

/-- The type of an alias is visited below a link to it. -/
theorem visits_of_target {name : String} {program : Option String} {defined : DefinedType}
    (htarget : resolver.target name program = some defined)
    (hshape : DefinedShape.ofType defined.type = .synonym) :
    resolver.Visits (.link name program) defined.type 1 := by
  have hbelow : (defined.type, 1) ∈ resolver.below (.link name program) := by
    rw [below_link_of_synonym htarget hshape]
    exact List.mem_singleton_self _
  exact .step hbelow (.refl defined.type)

/-- **A type is resolved if and only if everything visited below it can be expressed**, at a depth
of at most 64. In particular no type with a link to an alias that leads back to itself is resolved,
in any context. -/
theorem resolves_iff (resolver : Resolver) (node : TypeNode) (ctx : ResolveContext) :
    ((∃ manifest, resolver.resolve node ctx = .ok manifest) ↔
      ∀ part below, resolver.Visits node part below →
        ctx.depth + below ≤ maxTypeDepth ∧ resolver.Expressible part) ∧
    ∀ name program defined below, resolver.Visits node (.link name program) below →
      resolver.target name program = some defined → resolver.LeadsBack defined →
        ∀ manifest, resolver.resolve node ctx ≠ .ok manifest := by
  refine ⟨succeeds_resolve_iff, ?_⟩
  rintro name program defined below hlink htarget
    ⟨hshape, backName, backProgram, depth, hback, hbackTarget⟩ manifest h
  have hcycle := hback.trans (visits_of_target hbackTarget hshape)
  obtain ⟨deep, hdeep, hvisits⟩ := hcycle.exists_deeper (Nat.succ_pos depth) (maxTypeDepth + 1)
  have hbelow := hlink.trans ((visits_of_target htarget hshape).trans hvisits)
  have hdepth := (succeeds_resolve_iff.mp ⟨manifest, h⟩ _ _ hbelow).1
  omega

/-- Links inside a program with two aliases that lead to each other. -/
def rings : Resolver where
  dictionary := .ofPrograms [.ofTypes "shop" [
    ⟨"ring", .option (.link "chain" none) ⟨.u8, .little⟩ false, []⟩,
    ⟨"chain", .array (.link "ring" none) .borsh, []⟩]]
  program := "shop"

/-- A number is resolved at a depth of 64, and a ring of chains of rings is not resolved at all. -/
theorem resolves_iff_ring :
    (∃ manifest, rings.resolve (.number ⟨.u8, .little⟩) ⟨none, 64, false, false, .type⟩ =
      .ok manifest) ∧
    ∀ manifest, rings.resolve (.tuple [.bytes, .link "ring" none]) (.root "Box" .type) ≠
      .ok manifest := by
  constructor
  · refine (resolves_iff rings _ _).1.mpr fun part below hvisits => ?_
    cases hvisits with
    | refl => exact ⟨Nat.le_refl 64, by simp [expressible_iff]⟩
    | step hbelow _ => cases hbelow
  · have hring : rings.target "ring" none =
        some ⟨"ring", .option (.link "chain" none) ⟨.u8, .little⟩ false, []⟩ := rfl
    have hchain : rings.target "chain" none =
        some ⟨"chain", .array (.link "ring" none) .borsh, []⟩ := rfl
    -- From the ring over the link to the chain and the type of the chain to the link to the ring.
    have hback : rings.Visits (.option (.link "chain" none) ⟨.u8, .little⟩ false)
        (.link "ring" none) _ :=
      .step List.mem_cons_self
        ((visits_of_target hchain rfl).trans (.step List.mem_cons_self (.refl _)))
    have hbox : rings.Visits (.tuple [.bytes, .link "ring" none]) (.link "ring" none) _ :=
      .step (List.mem_cons_of_mem _ List.mem_cons_self) (.refl _)
    exact (resolves_iff rings _ _).2 _ _ _ _ hbox hring ⟨rfl, _, _, _, hback, hring⟩

end Resolver

end DartClient
