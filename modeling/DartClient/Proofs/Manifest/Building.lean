import DartClient.Proofs.Manifest.Links

/-!
# How manifests are built

Resolving a type puts its manifest together from the manifests of the types directly inside it,
each resolved in a context of its own. What is put together from what is told here once, for every
kind of type, without regard to the depth at which resolving gives up: everything that the resolver
gives out is built in this way.

## Main definitions

* `Idl.TypeNode.placed`: the types directly inside a type, with their contexts.
* `Resolver.Composes`: a manifest is put together from those of the types directly inside.
* `Resolver.Builds`: a manifest is built from the ground up.

## Main results

* `Resolver.builds_of_resolveLevel`: one level of the resolver builds manifests if the levels below
  do.
* `Resolver.builds_of_resolve`: what a type is resolved to is built.
* `Resolver.shape_of_builds`: a type that stands beside its user is no class of its own.
-/

namespace DartClient

open Idl (TypeNode StructField EnumVariant NumberType NumberFormat Count BytesEncoding DefinedType)

/-! ## The types inside a type -/

/-- A type with the context in which it is resolved. -/
abbrev Placed := TypeNode × ResolveContext

/-- The items of a payload from a position on. -/
def placedItems (ctx : ResolveContext) (position : Nat) : List TypeNode → List Placed
  | [] => []
  | item :: items =>
    (item, ctx.field ("Field" ++ toString position)) :: placedItems ctx (position + 1) items

/-- The types directly inside a variant; named fields make a struct. -/
def placedVariant (ctx : ResolveContext) (variant : EnumVariant) : List Placed :=
  let ctx := ctx.variant (className variant.name)
  match variant with
  | .empty _ => []
  | .tuple _ items => placedItems ctx 0 items
  | .struct _ fields => [(.struct fields, ctx)]

namespace Idl.TypeNode

/-- Whether a type is a class in place. -/
def isClass : TypeNode → Bool
  | .struct _ | .enum _ _ => true
  | _ => false

/-- The type below a size. -/
def sized? : TypeNode → Option TypeNode
  | .fixedSize inner _ | .sizePrefix inner _ => some inner
  | _ => none

/-- The types directly inside a type that are resolved on their own. Plain numbers in a typed list
and texts and bytes of a given size are not, and links are followed elsewhere. -/
def placed (ctx : ResolveContext) : TypeNode → List Placed
  | .array item count =>
    match count, typedItem? item with
    | .fixed _, some _ => []
    | _, _ => [(item, ctx.item)]
  | .option item _ _ | .set item _ => [(item, ctx.item)]
  | .fixedSize inner _ | .sizePrefix inner _ =>
    match inner with
    | .string _ | .bytes => []
    | inner => [(inner, ctx.item)]
  | .map key value _ => [(key, ctx.item), (value, ctx.item)]
  | .tuple items => items.map fun item => (item, ctx.item)
  | .struct fields => fields.map fun field => (field.type, ctx.field (className field.name))
  | .enum variants _ => variants.flatMap (placedVariant ctx)
  | _ => []

end Idl.TypeNode

section Placed

variable {node : TypeNode} {ctx : ResolveContext} {part : Placed}

/-- Inside a type that is no class the context is as it was. -/
theorem mem_of_mem_placed (hclass : node.isClass = false)
    (hpart : part ∈ node.placed ctx) : part.1 ∈ node.parts ∧ part.2 = ctx.item := by
  cases node
  case struct | enum => cases hclass
  case tuple items =>
    obtain ⟨item, hitem, rfl⟩ := List.mem_map.mp hpart
    exact ⟨hitem, rfl⟩
  case map key value count =>
    rcases List.mem_pair.mp hpart with rfl | rfl
    · exact ⟨List.mem_cons_self, rfl⟩
    · exact ⟨List.mem_cons_of_mem _ List.mem_cons_self, rfl⟩
  case option | set =>
    obtain rfl := List.mem_singleton.mp hpart
    exact ⟨List.mem_cons_self, rfl⟩
  case array item count =>
    simp only [TypeNode.placed] at hpart
    split at hpart
    · cases hpart
    · obtain rfl := List.mem_singleton.mp hpart
      exact ⟨List.mem_cons_self, rfl⟩
  case fixedSize inner size | sizePrefix inner width =>
    simp only [TypeNode.placed] at hpart
    split at hpart
    case h_1 | h_2 => cases hpart
    case h_3 =>
      obtain rfl := List.mem_singleton.mp hpart
      exact ⟨List.mem_cons_self, rfl⟩
  all_goals cases hpart

theorem mem_of_mem_placedItems {items : List TypeNode} : ∀ {position : Nat},
    part ∈ placedItems ctx position items → part.1 ∈ items ∧ part.2.declares = true := by
  induction items with
  | nil => exact nofun
  | cons item items ih =>
    intro position h
    rcases List.mem_cons.mp h with rfl | h
    · exact ⟨List.mem_cons_self, rfl⟩
    · exact (ih h).imp_left (List.mem_cons_of_mem item)

/-- The types inside that are resolved on their own are parts of the type, except for the struct
that the named fields of a variant make. -/
theorem mem_parts_of_mem_placed (hpart : part ∈ node.placed ctx) :
    part.1 ∈ node.parts ∨
      ∃ fields, part.1 = .struct fields ∧ ∀ field ∈ fields, field.type ∈ node.parts := by
  cases hclass : node.isClass with
  | false => exact .inl (mem_of_mem_placed hclass hpart).1
  | true =>
    cases node
    case struct fields =>
      obtain ⟨field, hfield, rfl⟩ := List.mem_map.mp hpart
      exact .inl (List.mem_map_of_mem hfield)
    case enum variants size =>
      obtain ⟨variant, hvariant, hpart⟩ := List.mem_flatMap.mp hpart
      cases variant with
      | empty => cases hpart
      | tuple name items =>
        exact .inl (List.mem_flatMap.mpr ⟨_, hvariant, (mem_of_mem_placedItems hpart).1⟩)
      | struct name fields =>
        obtain rfl := List.mem_singleton.mp hpart
        refine .inr ⟨fields, rfl, fun field hfield => ?_⟩
        exact List.mem_flatMap.mpr ⟨_, hvariant, List.mem_map_of_mem hfield⟩
    all_goals cases hclass

/-! The links that are met on the way through a type are those of the types directly inside. -/

theorem Resolver.meets_of_mem_placed {resolver : Resolver} {name : String}
    {program : Option String} (hpart : part ∈ node.placed ctx)
    (h : resolver.Meets part.1 name program) : resolver.Meets node name program := by
  rcases mem_parts_of_mem_placed hpart with hmem | ⟨fields, hstruct, hfields⟩
  · exact .part hmem h
  · -- The struct of a variant is no part of the type, but its fields are.
    rw [hstruct] at h
    obtain ⟨type, htype, h⟩ := exists_part_of_meets (fun _ _ => by simp) h
    obtain ⟨field, hfield, rfl⟩ := List.mem_map.mp htype
    exact .part (hfields field hfield) h

theorem exists_mem_placedItems {items : List TypeNode} {item : TypeNode} (h : item ∈ items) :
    ∀ position, ∃ part ∈ placedItems ctx position items, part.1 = item := by
  induction h with
  | head => exact fun _ => ⟨_, List.mem_cons_self, rfl⟩
  | tail _ _ ih =>
    intro position
    obtain ⟨part, hpart, hitem⟩ := ih (position + 1)
    exact ⟨part, List.mem_cons_of_mem _ hpart, hitem⟩

theorem Resolver.exists_placed_of_meets {resolver : Resolver} {name : String}
    {program : Option String} (hlink : ∀ name program, node ≠ .link name program)
    (hmeets : resolver.Meets node name program) (ctx : ResolveContext) :
    ∃ part ∈ node.placed ctx, resolver.Meets part.1 name program := by
  obtain ⟨type, htype, h⟩ := exists_part_of_meets hlink hmeets
  clear hmeets
  -- Types without links are not resolved on their own: plain numbers, texts and bytes.
  have hbare (bare : TypeNode) (hparts : bare.parts = [])
      (hbare : ∀ name program, bare ≠ .link name program) : ¬ resolver.Meets bare name program := by
    intro hmeets
    obtain ⟨part, hpart, -⟩ := exists_part_of_meets hbare hmeets
    rw [hparts] at hpart
    cases hpart
  cases node
  case struct fields =>
    obtain ⟨field, hfield, rfl⟩ := List.mem_map.mp htype
    exact ⟨_, List.mem_map_of_mem hfield, h⟩
  case enum variants size =>
    obtain ⟨variant, hvariant, htype⟩ := List.mem_flatMap.mp htype
    have hplaced : ∃ part ∈ placedVariant ctx variant, resolver.Meets part.1 name program := by
      cases variant with
      | empty => cases htype
      | tuple _ items =>
        obtain ⟨part, hpart, rfl⟩ := exists_mem_placedItems htype 0
        exact ⟨part, hpart, h⟩
      | struct _ fields => exact ⟨_, List.mem_cons_self, .part htype h⟩
    obtain ⟨part, hpart, h⟩ := hplaced
    exact ⟨part, List.mem_flatMap.mpr ⟨variant, hvariant, hpart⟩, h⟩
  case tuple items => exact ⟨_, List.mem_map_of_mem htype, h⟩
  case map key value count =>
    rcases List.mem_pair.mp htype with rfl | rfl
    · exact ⟨_, List.mem_cons_self, h⟩
    · exact ⟨_, List.mem_cons_of_mem _ List.mem_cons_self, h⟩
  case option | set =>
    obtain rfl := List.mem_singleton.mp htype
    exact ⟨_, List.mem_cons_self, h⟩
  case array item count =>
    obtain rfl := List.mem_singleton.mp htype
    simp only [TypeNode.placed]
    split
    case h_1 htyped =>
      rw [eq_number_of_typedItem? htyped] at h
      exact absurd h (hbare _ rfl (fun _ _ => by simp))
    case h_2 => exact ⟨_, List.mem_cons_self, h⟩
  case fixedSize inner size | sizePrefix inner width =>
    obtain rfl := List.mem_singleton.mp htype
    simp only [TypeNode.placed]
    split
    case h_1 | h_2 => exact absurd h (hbare _ rfl (fun _ _ => by simp))
    case h_3 => exact ⟨_, List.mem_cons_self, h⟩
  all_goals cases htype

end Placed

/-! ## Putting together -/

/-- A field with the manifest of its type. -/
def FieldManifest.ofField (ctx : ResolveContext) (field : StructField) (manifest : Manifest) :
    FieldManifest where
  name := ctx.naming.spell field.name
  sourceName := field.name
  targetType := manifest.targetType
  codec := manifest.codec
  docs := field.docs
  defaultValue := field.defaultValue

/-- The items of a payload from a position on, with the manifests of their types. -/
def FieldManifest.ofItems (position : Nat) : List Manifest → List FieldManifest
  | [] => []
  | manifest :: manifests =>
    let name := "field" ++ toString position
    { name := name
      sourceName := name
      targetType := manifest.targetType
      codec := manifest.codec
      docs := []
      defaultValue := none } :: ofItems (position + 1) manifests

/-- The payload of a variant with the manifests of the types inside. -/
def VariantPayload.ofVariant : EnumVariant → List Manifest → VariantPayload
  | .empty _, _ => .empty
  | .tuple _ _, manifests => .tuple (FieldManifest.ofItems 0 manifests)
  | .struct _ _, manifests => .struct ((manifests.head?.bind Manifest.fields?).getD [])

/-- The variants of an enum from an index on, with the manifests of the types inside each. -/
def VariantManifest.ofVariants (index : Nat) :
    List EnumVariant → List (List Manifest) → List VariantManifest
  | variant :: variants, manifests :: rest =>
    ⟨className variant.name, memberName variant.name, index, .ofVariant variant manifests⟩ ::
      ofVariants (index + 1) variants rest
  | _, _ => []

/-- The variants of a class are called like those of the type. -/
theorem map_name_ofVariants : ∀ (index : Nat) {variants : List EnumVariant}
    {parts : List (List Manifest)}, variants.length = parts.length →
      (VariantManifest.ofVariants index variants parts).map VariantManifest.name =
        variants.map fun variant => className variant.name
  | _, [], [], _ => rfl
  | index, _ :: _, _ :: _, h => by
    rw [VariantManifest.ofVariants, List.map_cons, List.map_cons,
      map_name_ofVariants (index + 1) (Nat.succ.inj h)]

/-- The class that a struct is. -/
def structClass (ctx : ResolveContext) (fields : List StructField) (children : List Manifest) :
    Manifest :=
  let fields := fields.zipWith (FieldManifest.ofField ctx) children
  let name := ctx.typeName "AnonymousStruct"
  classManifest ctx name (.struct name (fields.map FieldManifest.entry)) (.struct fields) children

/-- The class that an enum is. -/
def enumClass (ctx : ResolveContext) (variants : List EnumVariant) (format : NumberFormat)
    (parts : List (List Manifest)) : Manifest :=
  let variants := VariantManifest.ofVariants 0 variants parts
  let name := ctx.typeName "AnonymousEnum"
  classManifest ctx name (.enum name format (variants.map VariantManifest.codec))
    (.enum format variants) parts.flatten

/-- The manifest of a tuple. -/
def tupleOf (children : List Manifest) : Manifest :=
  (children.foldl Manifest.absorb (.leaf "" (.tuple []))).wrap
    (tupleType (children.map (·.targetType))) (.tuple (children.map (·.codec)))

/-- The context of the type that an alias stands for. -/
def aliasContext (link : String) (depth : Nat) : ResolveContext :=
  { ResolveContext.root (className link) .type with depth := depth }

/-- The manifests of types with nothing inside them. -/
inductive IsLeaf : Manifest → Prop
  | number (targetType : String) (format : NumberFormat) :
    IsLeaf (.leaf targetType (.number format))
  | boolean (format : NumberFormat) : IsLeaf (.leaf "bool" (.boolean format))
  | string (length : Length) : IsLeaf (.leaf "String" (.string length))
  | bytes (length : Length) : IsLeaf (bytesManifest length)
  | publicKey : IsLeaf ((Manifest.leaf "Ed25519HDPublicKey" .publicKey).withImport solanaModule
    ["Ed25519HDPublicKey"])
  | typedList {list : String} {format : NumberFormat} (hlist : typedList? format = some list)
      (count : Nat) : IsLeaf (typedListManifest list format count)
  | unknown (kind : String) (ctx : ResolveContext) : IsLeaf (unknownManifest kind ctx)

theorem IsLeaf.shape_eq {manifest : Manifest} (h : IsLeaf manifest) : manifest.shape = .plain := by
  cases h <;> rfl

namespace Resolver

variable {resolver : Resolver} {child : ResolveChild} {ctx : ResolveContext} {manifest : Manifest}

/-- A manifest is put together from those of the types directly inside. -/
inductive Composes (resolver : Resolver) (ctx : ResolveContext) :
    TypeNode → List Manifest → Manifest → Prop
  | leaf {node : TypeNode} {manifest : Manifest} (hclass : node.isClass = false)
      (hlink : ∀ name program, node ≠ .link name program) (h : IsLeaf manifest) :
      Composes resolver ctx node [] manifest
  /-- Options, lists and sets. -/
  | around {node item : TypeNode} {inner : Manifest} (targetType : String) {codec : Codec}
      (hplaced : node.placed ctx = [(item, ctx.item)]) (hclass : node.isClass = false)
      (hsized : node.sized? = none) (hcodec : codec.element? = some inner.codec) :
      Composes resolver ctx node [inner] (inner.wrap targetType codec)
  | sized {node item : TypeNode} {inner : Manifest} {codec : Codec}
      (hplaced : node.placed ctx = [(item, ctx.item)]) (hsized : node.sized? = some item)
      (hcodec : codec.element? = some inner.codec) :
      Composes resolver ctx node [inner] (wrapKeepingShape inner codec)
  | map (key value : TypeNode) (count : Count) {keyManifest valueManifest : Manifest}
      (targetType : String) (length : Length) :
      Composes resolver ctx (.map key value count) [keyManifest, valueManifest]
        ((keyManifest.absorb valueManifest).wrap targetType
          (.map keyManifest.codec valueManifest.codec length))
  | tuple (items : List TypeNode) (children : List Manifest) :
    Composes resolver ctx (.tuple items) children (tupleOf children)
  | structLink {link : String} {program : Option String} {defined : DefinedType}
      (htarget : resolver.target link program = some defined)
      (hshape : DefinedShape.ofType defined.type = .struct) :
      Composes resolver ctx (.link link program) []
        ((Manifest.leaf (className link) (.defined (className link) .struct)).withImport
          (generatedModule "types" (fileStem link)) [className link, layoutSymbol (className link)])
  | enumLink {link : String} {program : Option String} {defined : DefinedType}
      {variants : List String} (htarget : resolver.target link program = some defined)
      (hshape : DefinedShape.ofType defined.type = .enum variants) :
      Composes resolver ctx (.link link program) []
        ((Manifest.leaf (className link) (.defined (className link) (.enum variants))).withImport
          (generatedModule "types" (fileStem link)) (className link :: variants.map layoutSymbol))
  | struct (fields : List StructField) (children : List Manifest) :
    Composes resolver ctx (.struct fields) children (structClass ctx fields children)
  | enum {variants : List EnumVariant} (format : NumberFormat) {parts : List (List Manifest)}
      (hparts : List.Forall₂ (fun variant part => (placedVariant ctx variant).length = part.length)
        variants parts) :
      Composes resolver ctx (.enum variants ⟨format, .little⟩) parts.flatten
        (enumClass ctx variants format parts)

/-- A manifest is built from the ground up. A link to an alias has what the alias needs, built in
the context of the alias. -/
inductive Builds (resolver : Resolver) : TypeNode → ResolveContext → Manifest → Prop
  | compose {node : TypeNode} {ctx : ResolveContext} {children : List Manifest}
      {manifest : Manifest} (hcomposes : resolver.Composes ctx node children manifest)
      (hlength : (node.placed ctx).length = children.length)
      (hchildren : ∀ part ∈ (node.placed ctx).zip children,
        Builds resolver part.1.1 part.1.2 part.2) : Builds resolver node ctx manifest
  | synonym {link : String} {program : Option String} {defined : DefinedType}
      {ctx : ResolveContext} {inner : Manifest}
      (htarget : resolver.target link program = some defined)
      (hshape : DefinedShape.ofType defined.type = .synonym)
      (hinner : Builds resolver defined.type (aliasContext link (ctx.depth + 1)) inner) :
      Builds resolver (.link link program) ctx
        (aliasManifest (className link) (generatedModule "types" (fileStem link)) inner)

/-! ## One level -/

/-- The level below builds manifests. -/
def ChildBuilds (resolver : Resolver) (child : ResolveChild) : Prop :=
  ∀ {node ctx manifest}, child node ctx = .ok manifest → resolver.Builds node ctx manifest

/-- The manifests of types in their contexts are built, place by place. -/
abbrev BuildsAll (resolver : Resolver) : List Placed → List Manifest → Prop :=
  List.Forall₂ fun part manifest => resolver.Builds part.1 part.2 manifest

theorem builds_of_composes {node : TypeNode} {children : List Manifest}
    (hcomposes : resolver.Composes ctx node children manifest)
    (hchildren : resolver.BuildsAll (node.placed ctx) children) :
    resolver.Builds node ctx manifest :=
  .compose hcomposes hchildren.length_eq fun _ hpart =>
    (List.forall₂_iff_zip.mp hchildren).2 hpart

/-- A type with one type inside it is built from the manifest of that type. -/
theorem buildsAll_singleton {node item : TypeNode} {inner : Manifest}
    (hplaced : node.placed ctx = [(item, ctx.item)])
    (hinner : resolver.Builds item ctx.item inner) :
    resolver.BuildsAll (node.placed ctx) [inner] := by
  rw [hplaced]
  exact .cons hinner .nil

theorem builds_of_leaf {node : TypeNode} (hclass : node.isClass = false)
    (hlink : ∀ name program, node ≠ .link name program) (hplaced : node.placed ctx = [])
    (h : IsLeaf manifest) : resolver.Builds node ctx manifest := by
  refine builds_of_composes (.leaf hclass hlink h) ?_
  rw [hplaced]
  exact .nil

theorem map_fst_eq_zipWith {fields : List StructField}
    {resolved : List (FieldManifest × Manifest)} (h : List.Forall₂ (fun field result =>
      result.1 = FieldManifest.ofField ctx field result.2) fields resolved) :
    resolved.map Prod.fst =
      fields.zipWith (FieldManifest.ofField ctx) (resolved.map Prod.snd) := by
  induction h with
  | nil => rfl
  | cons hhead _ ih => rw [List.map_cons, List.map_cons, List.zipWith_cons_cons, ← ih, hhead]

theorem builds_of_struct (hchild : resolver.ChildBuilds child) {fields : List StructField}
    (h : structManifest child ctx fields = .ok manifest) :
    resolver.Builds (.struct fields) ctx manifest := by
  obtain ⟨resolved, hresolved, h⟩ := Resolved.bind_eq_ok_iff.mp h
  obtain rfl := Except.ok.inj h
  -- Every field takes what it shows from the manifest beside it.
  have hfields : List.Forall₂ (fun field result => result.1 = FieldManifest.ofField ctx field
      result.2 ∧ resolver.Builds field.type (ctx.field (className field.name)) result.2)
      fields resolved := by
    refine (Resolved.mapM_eq_ok_iff.mp hresolved).imp fun field result hfield => ?_
    obtain ⟨manifest, hmanifest, hresult⟩ := Resolved.bind_eq_ok_iff.mp hfield
    obtain rfl := Except.ok.inj hresult
    exact ⟨rfl, hchild hmanifest⟩
  have hcomposes : resolver.Composes ctx (.struct fields) (resolved.map Prod.snd)
      (structClass ctx fields (resolved.map Prod.snd)) := .struct fields _
  rw [structClass, ← map_fst_eq_zipWith (hfields.imp fun _ _ hfield => hfield.1)] at hcomposes
  refine builds_of_composes hcomposes ?_
  simp only [TypeNode.placed, BuildsAll]
  rw [List.forall₂_map_left_iff, List.forall₂_map_right_iff]
  exact hfields.imp fun _ _ hfield => hfield.2

theorem builds_of_items (hchild : resolver.ChildBuilds child) {items : List TypeNode} :
    ∀ {position : Nat} {resolved : List (FieldManifest × Manifest)},
    payloadItems child ctx position items = .ok resolved →
      resolved.map Prod.fst = FieldManifest.ofItems position (resolved.map Prod.snd) ∧
        resolver.BuildsAll (placedItems ctx position items) (resolved.map Prod.snd) := by
  induction items with
  | nil =>
    intro position resolved h
    obtain rfl := Except.ok.inj h
    exact ⟨rfl, .nil⟩
  | cons item items ih =>
    intro position resolved h
    obtain ⟨head, hhead, h⟩ := Resolved.bind_eq_ok_iff.mp h
    obtain ⟨tail, htail, h⟩ := Resolved.bind_eq_ok_iff.mp h
    obtain rfl := Except.ok.inj h
    obtain ⟨manifest, hmanifest, hhead⟩ := Resolved.bind_eq_ok_iff.mp hhead
    obtain rfl := Except.ok.inj hhead
    obtain ⟨hfields, hbuilds⟩ := ih htail
    refine ⟨?_, .cons (hchild hmanifest) hbuilds⟩
    rw [List.map_cons, hfields]
    rfl

theorem builds_of_variant (hchild : resolver.ChildBuilds child) {variant : EnumVariant}
    {payload : VariantPayload} {part : List Manifest}
    (h : variantPayload child (ctx.variant (className variant.name)) variant =
      .ok (payload, part)) :
    payload = .ofVariant variant part ∧ resolver.BuildsAll (placedVariant ctx variant) part := by
  cases variant with
  | empty name =>
    obtain ⟨rfl, rfl⟩ := Prod.mk.inj (Except.ok.inj h)
    exact ⟨rfl, .nil⟩
  | tuple name items =>
    obtain ⟨resolved, hresolved, h⟩ := Resolved.bind_eq_ok_iff.mp h
    obtain ⟨rfl, rfl⟩ := Prod.mk.inj (Except.ok.inj h)
    obtain ⟨hfields, hbuilds⟩ := builds_of_items hchild hresolved
    exact ⟨congrArg VariantPayload.tuple hfields, hbuilds⟩
  | struct name fields =>
    obtain ⟨manifest, hmanifest, h⟩ := Resolved.bind_eq_ok_iff.mp h
    obtain ⟨rfl, rfl⟩ := Prod.mk.inj (Except.ok.inj h)
    exact ⟨rfl, .cons (builds_of_struct hchild hmanifest) .nil⟩

theorem builds_of_variants (hchild : resolver.ChildBuilds child) {variants : List EnumVariant} :
    ∀ {index : Nat} {resolved : List (VariantManifest × List Manifest)},
    variantManifests child ctx index variants = .ok resolved →
      resolved.map Prod.fst =
          VariantManifest.ofVariants index variants (resolved.map Prod.snd) ∧
        List.Forall₂ (fun variant part => resolver.BuildsAll (placedVariant ctx variant) part)
          variants (resolved.map Prod.snd) := by
  induction variants with
  | nil =>
    intro index resolved h
    obtain rfl := Except.ok.inj h
    exact ⟨rfl, .nil⟩
  | cons variant variants ih =>
    intro index resolved h
    obtain ⟨⟨payload, part⟩, hpayload, h⟩ := Resolved.bind_eq_ok_iff.mp h
    obtain ⟨tail, htail, h⟩ := Resolved.bind_eq_ok_iff.mp h
    obtain rfl := Except.ok.inj h
    obtain ⟨rfl, hpart⟩ := builds_of_variant hchild hpayload
    obtain ⟨hvariants, hbuilds⟩ := ih htail
    refine ⟨?_, .cons hpart hbuilds⟩
    rw [List.map_cons, hvariants]
    rfl

/-- What is related list by list is related when the lists are strung together. -/
theorem forall₂_flatMap {α β γ : Type} {R : β → γ → Prop} {f : α → List β} {items : List α}
    {parts : List (List γ)} (h : List.Forall₂ (fun item part => List.Forall₂ R (f item) part) items
      parts) : List.Forall₂ R (items.flatMap f) parts.flatten := by
  induction h with
  | nil => exact .nil
  | cons hhead _ ih =>
    rw [List.flatMap_cons, List.flatten_cons]
    exact List.rel_append hhead ih

theorem builds_of_enum (hchild : resolver.ChildBuilds child) {variants : List EnumVariant}
    {size : NumberType} (h : enumManifest child ctx variants size = .ok manifest) :
    resolver.Builds (.enum variants size) ctx manifest := by
  obtain ⟨format, hformat, hvariants⟩ := Resolved.bind_eq_ok_iff.mp h
  obtain rfl := littleEndianFormat_eq_ok_iff.mp hformat
  obtain ⟨resolved, hresolved, hresult⟩ := Resolved.bind_eq_ok_iff.mp hvariants
  obtain rfl := Except.ok.inj hresult
  obtain ⟨hmanifests, hbuilds⟩ := builds_of_variants hchild hresolved
  have hcomposes : resolver.Composes ctx (.enum variants ⟨format, .little⟩)
      (resolved.map Prod.snd).flatten (enumClass ctx variants format (resolved.map Prod.snd)) :=
    .enum format (hbuilds.imp fun _ _ hpart => hpart.length_eq)
  rw [enumClass, ← hmanifests, ← List.flatMap_def] at hcomposes
  refine builds_of_composes hcomposes ?_
  rw [List.flatMap_def]
  exact forall₂_flatMap hbuilds

theorem builds_of_link (hchild : resolver.ChildBuilds child) {name : String}
    {program : Option String} (h : resolver.linkManifest child ctx name program = .ok manifest) :
    resolver.Builds (.link name program) ctx manifest := by
  unfold linkManifest at h
  cases htarget : resolver.dictionary.definedType? resolver.program name program with
  | none =>
    rw [htarget] at h
    cases h
  | some defined =>
    rw [htarget] at h
    simp only at h
    -- Only an alias is followed; a class is referred to by its name.
    cases hshape : DefinedShape.ofType defined.type with
    | struct =>
      rw [hshape] at h
      obtain rfl := Except.ok.inj h
      exact builds_of_composes (.structLink htarget hshape) .nil
    | enum variants =>
      rw [hshape] at h
      obtain rfl := Except.ok.inj h
      exact builds_of_composes (.enumLink htarget hshape) .nil
    | synonym =>
      rw [hshape] at h
      obtain ⟨inner, hinner, h⟩ := Resolved.bind_eq_ok_iff.mp h
      obtain rfl := Except.ok.inj h
      exact .synonym htarget hshape (hchild hinner)

/-- The type inside a size is resolved unless it is a text or bytes. -/
theorem placed_of_sized {node inner : TypeNode} (hsized : node.sized? = some inner)
    (htext : ∀ encoding, inner ≠ .string encoding) (hbytes : inner ≠ .bytes) :
    node.placed ctx = [(inner, ctx.item)] := by
  cases node <;> cases hsized
  all_goals
    cases inner
    case string encoding => exact absurd rfl (htext encoding)
    case bytes => exact absurd rfl hbytes
    all_goals rfl

/-- The item of an array is resolved unless it is a plain number of a typed list. -/
theorem placed_of_array {item : TypeNode} {count : Count}
    (huntyped : ∀ size, count = .fixed size → typedItem? item = none) :
    (TypeNode.array item count).placed ctx = [(item, ctx.item)] := by
  cases count with
  | prefixed width => rfl
  | remainder => rfl
  | fixed size => simp [TypeNode.placed, huntyped size rfl]

/-- **One level of the resolver builds manifests** if the levels below do. -/
theorem builds_of_resolveLevel (hchild : resolver.ChildBuilds child) {node : TypeNode}
    (h : resolver.resolveLevel child node ctx = .ok manifest) :
    resolver.Builds node ctx manifest := by
  -- With its item or the type below its size, a type is built around what that is built as.
  have haround {node item : TypeNode} {inner manifest : Manifest}
      (hplaced : node.placed ctx = [(item, ctx.item)]) (hinner : child item ctx.item = .ok inner)
      (hcomposes : resolver.Composes ctx node [inner] manifest) :
      resolver.Builds node ctx manifest :=
    builds_of_composes hcomposes (buildsAll_singleton hplaced (hchild hinner))
  cases makes_of_resolveLevel h with
  | number format | amount format | solAmount format | dateTime format =>
    exact builds_of_leaf rfl nofun rfl (.number _ format)
  | boolean format => exact builds_of_leaf rfl nofun rfl (.boolean format)
  | string | fixedText | prefixedText => exact builds_of_leaf rfl nofun rfl (.string _)
  | bytes | fixedBytes | prefixedBytes => exact builds_of_leaf rfl nofun rfl (.bytes _)
  | publicKey => exact builds_of_leaf rfl nofun rfl .publicKey
  | typedList htyped size =>
    refine builds_of_leaf rfl nofun ?_ (.typedList (typedList?_of_typedItem? htyped) size)
    simp [TypeNode.placed, htyped]
  | @array item count length inner hcount huntyped hinner =>
    have hplaced : (TypeNode.array item count).placed ctx = [(item, ctx.item)] :=
      placed_of_array huntyped
    exact haround hplaced hinner (.around _ hplaced rfl rfl rfl)
  | option flag isFixed hinner => exact haround rfl hinner (.around _ rfl rfl rfl rfl)
  | set hcount hinner => exact haround rfl hinner (.around _ rfl rfl rfl rfl)
  | @map key value count length keyManifest valueManifest hcount hkey hvalue =>
    exact builds_of_composes (.map key value count _ length)
      (.cons (hchild hkey) (.cons (hchild hvalue) .nil))
  | @tuple items children hchildren =>
    refine builds_of_composes (.tuple items children) ?_
    simp only [TypeNode.placed, BuildsAll]
    rw [List.forall₂_map_left_iff]
    exact hchildren.imp fun _ _ => hchild
  | @fixedSize item inner size htext hbytes hinner =>
    have hplaced : (TypeNode.fixedSize item size).placed ctx = [(item, ctx.item)] :=
      placed_of_sized rfl htext hbytes
    exact haround hplaced hinner (.sized hplaced rfl rfl)
  | @sizePrefix item inner width htext hbytes hinner =>
    have hplaced : (TypeNode.sizePrefix item ⟨width, .little⟩).placed ctx = [(item, ctx.item)] :=
      placed_of_sized rfl htext hbytes
    exact haround hplaced hinner (.sized hplaced rfl rfl)
  | link h => exact builds_of_link hchild h
  | struct h => exact builds_of_struct hchild h
  | enum h => exact builds_of_enum hchild h
  | unknown => exact builds_of_leaf rfl nofun rfl (.unknown _ ctx)

theorem childBuilds_resolveWithin (resolver : Resolver) (levels : Nat) :
    resolver.ChildBuilds (resolver.resolveWithin levels) := by
  -- The induction is on the number of levels that are left.
  induction levels with
  | zero =>
    intro node ctx manifest h
    cases h
  | succ levels ih =>
    intro node ctx manifest h
    exact builds_of_resolveLevel ih h

/-- **What a type is resolved to is built.** -/
theorem builds_of_resolve {node : TypeNode} (h : resolver.resolve node ctx = .ok manifest) :
    resolver.Builds node ctx manifest :=
  resolver.childBuilds_resolveWithin (levelsBelow ctx.depth) h

/-! ## What a class is built as -/

/-- A struct is built as a class with fields. -/
theorem exists_structClass_of_builds {fields : List StructField}
    (h : resolver.Builds (.struct fields) ctx manifest) :
    ∃ children, manifest = structClass ctx fields children := by
  cases h with
  | compose hcomposes =>
    cases hcomposes with
    | leaf hclass | around _ _ hclass => cases hclass
    | sized _ hsized => cases hsized
    | struct => exact ⟨_, rfl⟩

/-- An enum is built as a class with variants. -/
theorem exists_enumClass_of_builds {variants : List EnumVariant} {size : NumberType}
    (h : resolver.Builds (.enum variants size) ctx manifest) :
    ∃ format parts, variants.length = parts.length ∧
      manifest = enumClass ctx variants format parts := by
  cases h with
  | compose hcomposes =>
    cases hcomposes with
    | leaf hclass | around _ _ hclass => cases hclass
    | sized _ hsized => cases hsized
    | enum format hparts => exact ⟨format, _, hparts.length_eq, rfl⟩

theorem shape_structClass {fields : List StructField} {children : List Manifest}
    (hdeclares : ctx.declares = false) : (structClass ctx fields children).shape =
      .struct (fields.zipWith (FieldManifest.ofField ctx) children) := by
  simp [structClass, classManifest, hdeclares]

theorem shape_enumClass {variants : List EnumVariant} {format : NumberFormat}
    {parts : List (List Manifest)} (hdeclares : ctx.declares = false) :
    (enumClass ctx variants format parts).shape =
      .enum format (VariantManifest.ofVariants 0 variants parts) := by
  simp [enumClass, classManifest, hdeclares]

/-- A class that stands beside its user is not the user itself. -/
theorem shape_classManifest (hdeclares : ctx.declares = true) (name : String) (codec : Codec)
    (shape : Shape) (children : List Manifest) :
    (classManifest ctx name codec shape children).shape = .plain := by
  obtain ⟨_, _, _, hneeds⟩ := Manifest.exists_foldl_absorb_eq children (.leaf name codec)
  obtain ⟨_, hdeclared⟩ :=
    (children.foldl Manifest.absorb (.leaf name codec)).exists_declare_eq ⟨name, shape⟩
  rw [classManifest, if_pos hdeclares, hdeclared, hneeds]
  rfl

/-- **What stands beside its user is no class of its own**: where classes are declared, a type has
no shape. -/
theorem shape_of_builds {node : TypeNode} (h : resolver.Builds node ctx manifest) :
    ctx.declares = true → manifest.shape = .plain := by
  induction h with
  | synonym => exact fun _ => rfl
  | @compose node ctx children manifest hcomposes hlength _ ih =>
    intro hdeclares
    cases hcomposes with
    | leaf _ _ hleaf => exact hleaf.shape_eq
    | @sized _ item inner _ hplaced =>
      -- The context of the type below a size declares as the one around it does.
      have hmem : ((item, ctx.item), inner) ∈ (node.placed ctx).zip [inner] := by
        rw [hplaced]
        exact List.mem_cons_self
      exact ih _ hmem hdeclares
    | struct | enum => exact shape_classManifest hdeclares _ _ _ _
    | _ => rfl

end Resolver

end DartClient
