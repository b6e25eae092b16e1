import DartClient.Proofs.Codec.Parts
import DartClient.Proofs.Manifest.Scope
import Mathlib.Data.List.Nodup

/-!
# Declarations and layouts

A layout refers to structs and enums in place by name, and the classes of these names stand beside
the type. Every name in the layout is declared, no name is declared twice, and every declared class
has a layout that occurs in the layout of the type. So the two agree if and only if no name stands
for two layouts.

The resolver does not see to this. It drops a declaration of a name that is declared already, and it
gives one name to the items of a tuple, and to the keys and the values of a map.

## Main definitions

* `Codec.Contains`: a layout occurs in another one.
* `Declaration.codec?`: the layout of a declared class.
* `Exposes`: the classes of a layout that have to stand beside the type.

## Main results

* `Resolver.exposes_iff_of_builds`: the classes that a type exposes are its own and those that the
  types inside it expose.
* `Resolver.declarations_iff`: when the declarations agree with the layout.
-/

namespace DartClient

open Idl (TypeNode StructField EnumVariant NumberFormat Count DefinedType)

/-! ## Layouts of classes -/

namespace Codec

/-- A layout occurs in another one. -/
inductive Contains : Codec → Codec → Prop
  | here (codec : Codec) : Contains codec codec
  | inside {codec part inner : Codec} (hpart : part ∈ codec.parts) (h : Contains part inner) :
    Contains codec inner

theorem contains_iff {codec inner : Codec} :
    codec.Contains inner ↔ inner = codec ∨ ∃ part ∈ codec.parts, part.Contains inner := by
  constructor
  · rintro (_ | ⟨hpart, h⟩)
    · exact .inl rfl
    · exact .inr ⟨_, hpart, h⟩
  · rintro (rfl | ⟨part, hpart, h⟩)
    · exact .here _
    · exact .inside hpart h

/-- The name of a struct or an enum in place. -/
def className? : Codec → Option String
  | .struct name _ | .enum name _ _ => some name
  | _ => none

theorem parts_of_element? {codec inner : Codec} (h : codec.element? = some inner) :
    codec.parts = [inner] := by
  cases codec <;> cases h <;> rfl

theorem className?_of_element? {codec inner : Codec} (h : codec.element? = some inner) :
    codec.className? = none := by
  cases codec <;> cases h <;> rfl

end Codec

/-- The layout of a declared class. -/
def Declaration.codec? (declaration : Declaration) : Option Codec :=
  match declaration.shape with
  | .plain => none
  | .struct fields => some (.struct declaration.name (fields.map FieldManifest.entry))
  | .enum size variants => some (.enum declaration.name size (variants.map VariantManifest.codec))

theorem Declaration.className?_of_codec? {declaration : Declaration} {codec : Codec}
    (h : declaration.codec? = some codec) : codec.className? = some declaration.name := by
  unfold codec? at h
  split at h
  · cases h
  · obtain rfl := Option.some.inj h
    rfl
  · obtain rfl := Option.some.inj h
    rfl

/-! ## Each name once -/

namespace Manifest

variable {manifest child : Manifest} {declaration : Declaration}

theorem nodup_declare (h : manifest.declaredNames.Nodup) (declaration : Declaration) :
    (manifest.declare declaration).declaredNames.Nodup := by
  unfold declare
  split
  case isTrue => exact h
  case isFalse hany =>
    rw [declaredNames, List.map_append]
    apply List.Nodup.append h (List.nodup_singleton _)
    -- The class is declared only where none of its name has been.
    intro name hname hown
    obtain rfl := List.mem_singleton.mp hown
    obtain ⟨other, hother, hsame⟩ := List.mem_map.mp hname
    exact hany (List.any_eq_true.mpr ⟨other, hother, beq_iff_eq.mpr hsame⟩)

theorem nodup_absorb (h : manifest.declaredNames.Nodup) (child : Manifest) :
    (manifest.absorb child).declaredNames.Nodup := by
  suffices hfold : ∀ (declarations : List Declaration) (manifest : Manifest),
      manifest.declaredNames.Nodup → (declarations.foldl declare manifest).declaredNames.Nodup from
    hfold child.declarations { manifest with imports := manifest.imports.merge child.imports } h
  intro declarations
  induction declarations with
  | nil => exact fun _ h => h
  | cons declaration declarations ih => exact fun manifest h => ih _ (nodup_declare h declaration)

theorem nodup_foldl_absorb (children : List Manifest) (h : manifest.declaredNames.Nodup) :
    (children.foldl absorb manifest).declaredNames.Nodup := by
  induction children generalizing manifest with
  | nil => exact h
  | cons child children ih => exact ih (nodup_absorb h child)

/-- Declaring adds nothing but the given class. -/
theorem mem_declarations_declare {other : Declaration}
    (h : declaration ∈ (manifest.declare other).declarations) :
    declaration ∈ manifest.declarations ∨ declaration = other := by
  unfold declare at h
  split at h
  · exact .inl h
  · simpa using h

theorem mem_declarations_absorb (h : declaration ∈ (manifest.absorb child).declarations) :
    declaration ∈ manifest.declarations ∨ declaration ∈ child.declarations := by
  suffices hfold : ∀ (declarations : List Declaration) (manifest : Manifest),
      declaration ∈ (declarations.foldl declare manifest).declarations →
        declaration ∈ manifest.declarations ∨ declaration ∈ declarations from
    hfold child.declarations { manifest with imports := manifest.imports.merge child.imports } h
  intro declarations
  induction declarations with
  | nil => exact fun _ h => .inl h
  | cons other declarations ih =>
    intro manifest h
    rcases ih _ h with h | h
    · rcases mem_declarations_declare h with h | rfl
      · exact .inl h
      · exact .inr List.mem_cons_self
    · exact .inr (List.mem_cons_of_mem _ h)

theorem mem_declarations_foldl_absorb (children : List Manifest)
    (h : declaration ∈ (children.foldl absorb manifest).declarations) :
    declaration ∈ manifest.declarations ∨
      ∃ child ∈ children, declaration ∈ child.declarations := by
  induction children generalizing manifest with
  | nil => exact .inl h
  | cons child children ih =>
    rcases ih h with h | ⟨other, hother, h⟩
    · rcases mem_declarations_absorb h with h | h
      · exact .inl h
      · exact .inr ⟨child, List.mem_cons_self, h⟩
    · exact .inr ⟨other, List.mem_cons_of_mem _ hother, h⟩

end Manifest

section Class

variable {ctx : ResolveContext} {own : String} {codec : Codec} {shape : Shape}
  {children : List Manifest} {declaration : Declaration}

theorem nodup_classManifest : (classManifest ctx own codec shape children).declaredNames.Nodup := by
  have hneeds : (children.foldl Manifest.absorb (.leaf own codec)).declaredNames.Nodup :=
    Manifest.nodup_foldl_absorb children List.nodup_nil
  unfold classManifest
  split
  · exact Manifest.nodup_declare hneeds _
  · exact hneeds

theorem mem_declarations_classManifest
    (h : declaration ∈ (classManifest ctx own codec shape children).declarations) :
    (ctx.declares = true ∧ declaration = ⟨own, shape⟩) ∨
      ∃ child ∈ children, declaration ∈ child.declarations := by
  unfold classManifest at h
  split at h
  case isTrue hdeclares =>
    rcases Manifest.mem_declarations_declare h with h | h
    · exact .inr ((Manifest.mem_declarations_foldl_absorb children h).resolve_left List.not_mem_nil)
    · exact .inl ⟨hdeclares, h⟩
  case isFalse =>
    exact .inr ((Manifest.mem_declarations_foldl_absorb children h).resolve_left List.not_mem_nil)

end Class

/-! ## Putting together -/

/-- The layouts at the top of what has to be declared: the layout itself, or what is inside it where
the class is its own user or its user takes its fields for itself. -/
def tops (ctx : ResolveContext) (codec : Codec) : List Codec :=
  if ctx.declares then [codec] else codec.parts

/-- A class of the given name and layout that has to stand beside the type. -/
def Exposes (ctx : ResolveContext) (codec : Codec) (name : String) (cls : Codec) : Prop :=
  cls.className? = some name ∧ ∃ top ∈ tops ctx codec, top.Contains cls

theorem exposes_iff {ctx : ResolveContext} (hctx : ctx.declares = true) {codec cls : Codec}
    {name : String} :
    Exposes ctx codec name cls ↔ cls.className? = some name ∧ codec.Contains cls := by
  simp [Exposes, tops, hctx]

namespace Resolver

variable {resolver : Resolver} {node : TypeNode} {ctx : ResolveContext} {manifest : Manifest}
  {children : List Manifest} {name : String} {cls : Codec}

/-- Types directly inside that have to stand beside the type as a whole are at the top as they
are. -/
theorem flatMap_tops_of_declares {parts : List Placed} {children : List Manifest}
    (hlength : parts.length = children.length) (hctx : ∀ part ∈ parts, part.2.declares = true) :
    (parts.zip children).flatMap (fun pair => tops pair.1.2 pair.2.codec) =
      children.map Manifest.codec := by
  induction parts generalizing children with
  | nil =>
    obtain rfl := List.length_eq_zero_iff.mp hlength.symm
    rfl
  | cons part parts ih =>
    cases children with
    | nil => cases hlength
    | cons child children =>
      obtain ⟨hpart, hparts⟩ := List.forall_mem_cons.mp hctx
      rw [List.zip_cons_cons, List.flatMap_cons, ih (Nat.succ.inj hlength) hparts, List.map_cons,
        tops, if_pos hpart]
      rfl

theorem map_codec_ofFields {fields : List StructField} {children : List Manifest}
    (hlength : fields.length = children.length) :
    ((fields.zipWith (FieldManifest.ofField ctx) children).map FieldManifest.entry).map
      FieldCodec.codec = children.map Manifest.codec := by
  induction fields generalizing children with
  | nil =>
    obtain rfl := List.length_eq_zero_iff.mp hlength.symm
    rfl
  | cons field fields ih =>
    cases children with
    | nil => cases hlength
    | cons child children =>
      rw [List.zipWith_cons_cons, List.map_cons, List.map_cons, ih (Nat.succ.inj hlength)]
      rfl

theorem map_codec_ofItems {position : Nat} (children : List Manifest) :
    (FieldManifest.ofItems position children).map FieldManifest.codec =
      children.map Manifest.codec := by
  induction children generalizing position with
  | nil => rfl
  | cons child children ih => rw [FieldManifest.ofItems, List.map_cons, List.map_cons, ih]

/-- The layout of a payload consists of what the types of its items and fields have at the top. -/
theorem codecs_ofVariant {variant : EnumVariant} {part : List Manifest}
    (h : resolver.BuildsAll (placedVariant ctx variant) part) :
    (VariantPayload.ofVariant variant part).codec.codecs =
      ((placedVariant ctx variant).zip part).flatMap fun pair => tops pair.1.2 pair.2.codec := by
  cases variant with
  | empty =>
    cases h
    rfl
  | tuple name items =>
    rw [flatMap_tops_of_declares h.length_eq fun _ hpart => (mem_of_mem_placedItems hpart).2]
    exact map_codec_ofItems part
  | struct name fields =>
    cases h with
    | cons hhead htail =>
      cases htail
      -- The enum takes the fields of the struct for itself.
      obtain ⟨children, rfl⟩ := exists_structClass_of_builds hhead
      rw [structClass, VariantPayload.ofVariant, List.head?_cons, Option.bind_some,
        fields?_classManifest rfl, placedVariant, List.zip_cons_cons, List.flatMap_cons,
        codec_classManifest]
      exact (List.append_nil _).symm

theorem parts_ofVariants {variants : List EnumVariant} {parts : List (List Manifest)}
    (h : List.Forall₂ (fun variant part => resolver.BuildsAll (placedVariant ctx variant) part)
      variants parts) : ∀ index,
    ((VariantManifest.ofVariants index variants parts).map VariantManifest.codec).flatMap
        (fun variant => variant.payload.codecs) =
      ((variants.flatMap (placedVariant ctx)).zip parts.flatten).flatMap
        fun pair => tops pair.1.2 pair.2.codec := by
  induction h with
  | nil => exact fun _ => rfl
  | cons hhead _ ih =>
    intro index
    rw [VariantManifest.ofVariants, List.map_cons, List.flatMap_cons, ih (index + 1),
      List.flatMap_cons, List.flatten_cons, List.zip_append hhead.length_eq, List.flatMap_append]
    exact congrArg (· ++ _) (codecs_ofVariant hhead)

/-- What is related in a list of lists strung together is related list by list. -/
theorem forall₂_of_flatMap {α β γ : Type} {R : β → γ → Prop} {f : α → List β} {items : List α}
    {parts : List (List γ)}
    (hlength : List.Forall₂ (fun item part => (f item).length = part.length) items parts)
    (h : List.Forall₂ R (items.flatMap f) parts.flatten) :
    List.Forall₂ (fun item part => List.Forall₂ R (f item) part) items parts := by
  induction hlength with
  | nil => exact .nil
  | @cons item part _ _ hhead _ ih =>
    rw [List.flatMap_cons, List.flatten_cons] at h
    have htake := List.forall₂_take (f item).length h
    have hdrop := List.forall₂_drop (f item).length h
    rw [List.take_left, hhead, List.take_left] at htake
    rw [List.drop_left, hhead, List.drop_left] at hdrop
    exact .cons htake (ih hdrop)

/-- A leaf has no classes inside it. -/
theorem className?_of_isLeaf {part : Codec} (h : IsLeaf manifest)
    (hpart : part ∈ manifest.codec.parts) (hcls : part.Contains cls) : cls.className? = none := by
  cases h with
  | number | boolean | string | bytes | publicKey | unknown => cases hpart
  | typedList hlist count =>
    obtain rfl := List.mem_singleton.mp hpart
    cases hcls with
    | here => rfl
    | inside hpart => cases hpart

/-- The parts of a layout are what the types directly inside have at the top. Only a leaf may have
parts without types inside. -/
theorem parts_of_composes (hcomposes : resolver.Composes ctx node children manifest)
    (hctx : ctx.declares = true ∨ node.isClass = true)
    (hbuilds : resolver.BuildsAll (node.placed ctx) children) :
    (children = [] ∧ IsLeaf manifest) ∨ manifest.codec.parts =
      ((node.placed ctx).zip children).flatMap fun pair => tops pair.1.2 pair.2.codec := by
  -- Around a type that is no class stands a type that is none, so the context is as it was.
  have hwhole (hclass : node.isClass = false) :
      ((node.placed ctx).zip children).flatMap (fun pair => tops pair.1.2 pair.2.codec) =
        children.map Manifest.codec := by
    refine flatMap_tops_of_declares hbuilds.length_eq fun part hpart => ?_
    rw [(mem_of_mem_placed hclass hpart).2]
    exact hctx.resolve_right (by simp [hclass])
  cases hcomposes with
  | leaf _ _ h => exact .inl ⟨rfl, h⟩
  | around targetType hplaced hclass hsized hcodec =>
    rw [hwhole hclass]
    exact .inr (Codec.parts_of_element? hcodec)
  | sized hplaced hsized hcodec =>
    rw [hwhole (TypeNode.isClass_eq_false_of_sized? hsized)]
    exact .inr (Codec.parts_of_element? hcodec)
  | map key value count targetType length =>
    rw [hwhole rfl]
    exact .inr rfl
  | tuple items =>
    rw [hwhole rfl]
    exact .inr rfl
  | structLink | enumLink => exact .inr rfl
  | struct fields =>
    right
    rw [flatMap_tops_of_declares hbuilds.length_eq, structClass, codec_classManifest]
    · apply map_codec_ofFields
      rw [← hbuilds.length_eq, TypeNode.placed, List.length_map]
    · intro part hpart
      obtain ⟨field, -, rfl⟩ := List.mem_map.mp hpart
      rfl
  | enum format hparts =>
    rw [enumClass, codec_classManifest]
    exact .inr (parts_ofVariants (forall₂_of_flatMap hparts hbuilds) 0)

/-- The classes in the parts of a layout are those that the types directly inside expose. -/
theorem exists_part_iff_of_composes (hcomposes : resolver.Composes ctx node children manifest)
    (hctx : ctx.declares = true ∨ node.isClass = true)
    (hbuilds : resolver.BuildsAll (node.placed ctx) children) :
    (cls.className? = some name ∧ ∃ part ∈ manifest.codec.parts, part.Contains cls) ↔
      ∃ pair ∈ (node.placed ctx).zip children, Exposes pair.1.2 pair.2.codec name cls := by
  rcases parts_of_composes hcomposes hctx hbuilds with ⟨rfl, hleaf⟩ | hparts
  · rw [List.zip_nil_right]
    refine iff_of_false ?_ (by simp)
    rintro ⟨hname, part, hpart, hcls⟩
    rw [className?_of_isLeaf hleaf hpart hcls] at hname
    cases hname
  · rw [hparts]
    simp only [Exposes, List.mem_flatMap]
    constructor
    · rintro ⟨hname, top, ⟨pair, hpair, htop⟩, hcls⟩
      exact ⟨pair, hpair, hname, top, htop, hcls⟩
    · rintro ⟨pair, hpair, hname, top, htop, hcls⟩
      exact ⟨hname, top, ⟨pair, hpair, htop⟩, hcls⟩

/-- **What a type exposes** is its own class and what the types directly inside expose. -/
theorem exposes_iff_of_composes (hcomposes : resolver.Composes ctx node children manifest)
    (hctx : ctx.declares = true ∨ node.isClass = true)
    (hbuilds : resolver.BuildsAll (node.placed ctx) children) :
    Exposes ctx manifest.codec name cls ↔
      (ctx.declares = true ∧ cls = manifest.codec ∧ cls.className? = some name) ∨
        ∃ pair ∈ (node.placed ctx).zip children, Exposes pair.1.2 pair.2.codec name cls := by
  rw [← exists_part_iff_of_composes hcomposes hctx hbuilds]
  by_cases hdeclares : ctx.declares = true
  · rw [exposes_iff hdeclares, Codec.contains_iff, and_or_left]
    simp [hdeclares, and_comm]
  · simp [Exposes, tops, hdeclares]

/-- A type whose own layout is that of a class is the class. -/
theorem standsBeside_of_composes (hcomposes : resolver.Composes ctx node children manifest)
    (hctx : ctx.declares = true) (hname : manifest.codec.className? = some name) :
    node.StandsBeside ctx name := by
  cases hcomposes with
  | leaf _ _ h => cases h <;> cases hname
  | around _ _ _ _ hcodec | sized _ _ hcodec =>
    cases (Codec.className?_of_element? hcodec).symm.trans hname
  | map | tuple | structLink | enumLink => cases hname
  | struct fields =>
    rw [structClass, codec_classManifest] at hname
    exact ⟨hctx, (Option.some.inj hname).symm⟩
  | enum format hparts =>
    rw [enumClass, codec_classManifest] at hname
    exact ⟨hctx, (Option.some.inj hname).symm⟩

/-- **What is declared beside a type** is the type itself, or is declared beside a type inside. -/
theorem mem_declarations_of_composes {declaration : Declaration}
    (hcomposes : resolver.Composes ctx node children manifest)
    (h : declaration ∈ manifest.declarations) :
    (ctx.declares = true ∧ declaration.codec? = some manifest.codec) ∨
      ∃ child ∈ children, declaration ∈ child.declarations := by
  cases hcomposes with
  | leaf _ _ hleaf => cases hleaf <;> cases h
  | structLink | enumLink => cases h
  | around | sized => exact .inr ⟨_, List.mem_cons_self, h⟩
  | map =>
    rcases Manifest.mem_declarations_absorb h with h | h
    · exact .inr ⟨_, List.mem_cons_self, h⟩
    · exact .inr ⟨_, List.mem_cons_of_mem _ List.mem_cons_self, h⟩
  | tuple =>
    exact .inr ((Manifest.mem_declarations_foldl_absorb _ h).resolve_left List.not_mem_nil)
  | struct fields =>
    rcases mem_declarations_classManifest h with ⟨hctx, rfl⟩ | h
    · rw [structClass, codec_classManifest]
      exact .inl ⟨hctx, rfl⟩
    · exact .inr h
  | enum format hparts =>
    rcases mem_declarations_classManifest h with ⟨hctx, rfl⟩ | h
    · rw [enumClass, codec_classManifest]
      exact .inl ⟨hctx, rfl⟩
    · exact .inr h

theorem nodup_of_composes (hcomposes : resolver.Composes ctx node children manifest)
    (hchildren : ∀ child ∈ children, child.declaredNames.Nodup) :
    manifest.declaredNames.Nodup := by
  cases hcomposes with
  | leaf _ _ hleaf =>
    rw [declaredNames_of_isLeaf hleaf]
    exact List.nodup_nil
  | structLink | enumLink => exact List.nodup_nil
  | around | sized => exact (List.forall_mem_cons.mp hchildren).1
  | map => exact Manifest.nodup_absorb (hchildren _ List.mem_cons_self) _
  | tuple => exact Manifest.nodup_foldl_absorb _ List.nodup_nil
  | struct | enum => exact nodup_classManifest

/-! ## The whole type -/

/-- None of the links on the way through a type leads to an alias. -/
def FollowsNoAlias (resolver : Resolver) (node : TypeNode) : Prop :=
  ∀ name program defined, resolver.Meets node name program →
    resolver.target name program = some defined → DefinedShape.ofType defined.type ≠ .synonym

/-- A type inside a type follows no other links. -/
theorem FollowsNoAlias.of_mem_placed {part : Placed} (h : resolver.FollowsNoAlias node)
    (hpart : part ∈ node.placed ctx) : resolver.FollowsNoAlias part.1 :=
  fun name program defined hmeets => h name program defined (meets_of_mem_placed hpart hmeets)

/-- Types inside stand beside the type as well, or are classes of their own. -/
theorem declares_or_isClass_of_mem_placed {part : Placed} (hpart : part ∈ node.placed ctx)
    (hctx : ctx.declares = true ∨ node.isClass = true) :
    part.2.declares = true ∨ part.1.isClass = true := by
  cases hclass : node.isClass with
  | false =>
    rw [(mem_of_mem_placed hclass hpart).2]
    exact .inl (hctx.resolve_right (by simp [hclass]))
  | true =>
    cases node
    case struct fields =>
      obtain ⟨field, -, rfl⟩ := List.mem_map.mp hpart
      exact .inl rfl
    case enum variants size =>
      obtain ⟨variant, -, hpart⟩ := List.mem_flatMap.mp hpart
      cases variant with
      | empty => cases hpart
      | tuple name items => exact .inl (mem_of_mem_placedItems hpart).2
      | struct name fields =>
        obtain rfl := List.mem_singleton.mp hpart
        exact .inr rfl
    all_goals cases hclass

/-- **No name is declared twice.** -/
theorem nodup_of_builds (h : resolver.Builds node ctx manifest) : manifest.declaredNames.Nodup := by
  induction h with
  | compose hcomposes hlength _ ih =>
    apply nodup_of_composes hcomposes
    intro child hchild
    obtain ⟨part, hpart⟩ := exists_mem_zip_of_mem_right hlength hchild
    exact ih _ hpart
  | synonym => exact List.nodup_nil

/-- **The names of the classes that a type exposes are declared.** -/
theorem mem_declaredNames_of_exposes (h : resolver.Builds node ctx manifest)
    (hctx : ctx.declares = true ∨ node.isClass = true) (halias : resolver.FollowsNoAlias node)
    (hcls : Exposes ctx manifest.codec name cls) : name ∈ manifest.declaredNames := by
  induction h with
  | compose hcomposes hlength hchildren ih =>
    rw [mem_declaredNames_of_composes hcomposes]
    have hbuilds := List.forall₂_iff_zip.mpr ⟨hlength, fun hpair => hchildren _ hpair⟩
    rcases (exposes_iff_of_composes hcomposes hctx hbuilds).mp hcls with
      ⟨hdeclares, rfl, hname⟩ | ⟨pair, hpair, hcls⟩
    · exact .inl (standsBeside_of_composes hcomposes hdeclares hname)
    · obtain ⟨hpart, hchild⟩ := List.of_mem_zip hpair
      exact .inr ⟨pair.2, hchild, ih pair hpair (declares_or_isClass_of_mem_placed hpart hctx)
        (halias.of_mem_placed hpart) hcls⟩
  | synonym htarget hshape =>
    -- A link to an alias would bring in the classes of the alias, which stand with the alias.
    exact absurd hshape (halias _ _ _ (.link _ _) htarget)

/-- **A declared class is one that the type exposes.** -/
theorem exists_exposes_of_mem_declarations {declaration : Declaration}
    (h : resolver.Builds node ctx manifest)
    (hctx : ctx.declares = true ∨ node.isClass = true) (halias : resolver.FollowsNoAlias node)
    (hmem : declaration ∈ manifest.declarations) : ∃ cls, declaration.codec? = some cls ∧
      Exposes ctx manifest.codec declaration.name cls := by
  induction h with
  | compose hcomposes hlength hchildren ih =>
    have hbuilds := List.forall₂_iff_zip.mpr ⟨hlength, fun hpair => hchildren _ hpair⟩
    simp only [exposes_iff_of_composes hcomposes hctx hbuilds]
    rcases mem_declarations_of_composes hcomposes hmem with
      ⟨hdeclares, hcodec⟩ | ⟨child, hchild, hmem⟩
    · exact ⟨_, hcodec, .inl ⟨hdeclares, rfl, Declaration.className?_of_codec? hcodec⟩⟩
    · obtain ⟨part, hpair⟩ := exists_mem_zip_of_mem_right hlength hchild
      have hpart := (List.of_mem_zip hpair).1
      obtain ⟨cls, hcodec, hcls⟩ := ih _ hpair (declares_or_isClass_of_mem_placed hpart hctx)
        (halias.of_mem_placed hpart) hmem
      exact ⟨cls, hcodec, .inr ⟨_, hpair, hcls⟩⟩
  | synonym htarget hshape => exact absurd hshape (halias _ _ _ (.link _ _) htarget)

/-- **When declarations and layouts agree.** Where classes stand beside the type and no link leads
to an alias, each name is declared once, the names in the layout are declared, and what is declared
occurs in the layout. Hence every struct and enum in the layout is declared with its own fields and
variants if and only if no two different ones have the same name. -/
theorem declarations_iff (h : resolver.resolve node ctx = .ok manifest)
    (hctx : ctx.declares = true) (halias : resolver.FollowsNoAlias node) :
    manifest.declaredNames.Nodup ∧
    (∀ cls name, manifest.codec.Contains cls → cls.className? = some name →
      name ∈ manifest.declaredNames) ∧
    (∀ declaration ∈ manifest.declarations, ∃ cls, declaration.codec? = some cls ∧
      manifest.codec.Contains cls) ∧
    ((∀ cls name, manifest.codec.Contains cls → cls.className? = some name →
        ∃ declaration ∈ manifest.declarations, declaration.codec? = some cls) ↔
      ∀ cls cls' name, manifest.codec.Contains cls → manifest.codec.Contains cls' →
        cls.className? = some name → cls'.className? = some name → cls = cls') := by
  have hbuilds := builds_of_resolve h
  have hnodup := nodup_of_builds hbuilds
  have hnames : ∀ cls name, manifest.codec.Contains cls → cls.className? = some name →
      name ∈ manifest.declaredNames := fun cls name hcls hname =>
    mem_declaredNames_of_exposes hbuilds (.inl hctx) halias ((exposes_iff hctx).mpr ⟨hname, hcls⟩)
  have hlayouts : ∀ declaration ∈ manifest.declarations, ∃ cls, declaration.codec? = some cls ∧
      manifest.codec.Contains cls := by
    intro declaration hmem
    obtain ⟨cls, hcodec, hcls⟩ :=
      exists_exposes_of_mem_declarations hbuilds (.inl hctx) halias hmem
    exact ⟨cls, hcodec, ((exposes_iff hctx).mp hcls).2⟩
  refine ⟨hnodup, hnames, hlayouts, fun hall => ?_, fun hunique => ?_⟩
  · -- Declarations of one name are one declaration.
    intro cls cls' name hcls hcls' hname hname'
    obtain ⟨declaration, hmem, hcodec⟩ := hall cls name hcls hname
    obtain ⟨declaration', hmem', hcodec'⟩ := hall cls' name hcls' hname'
    have hsame : declaration.name = declaration'.name := by
      have hown := (Declaration.className?_of_codec? hcodec).symm.trans hname
      have hown' := (Declaration.className?_of_codec? hcodec').symm.trans hname'
      exact Option.some.inj (hown.trans hown'.symm)
    obtain rfl := List.inj_on_of_nodup_map hnodup hmem hmem' hsame
    exact Option.some.inj (hcodec.symm.trans hcodec')
  · -- A declaration of the name has a layout that occurs, and there is only one of this name.
    intro cls name hcls hname
    obtain ⟨declaration, hmem, rfl⟩ := List.mem_map.mp (hnames cls name hcls hname)
    obtain ⟨cls', hcodec, hcls'⟩ := hlayouts declaration hmem
    obtain rfl := hunique cls cls' _ hcls hcls' hname (Declaration.className?_of_codec? hcodec)
    exact ⟨declaration, hmem, hcodec⟩

/-- A context in which the class called `Vault` stands beside its user. -/
def vaultContext : ResolveContext := { ResolveContext.root "Vault" .type with nestedStruct := true }

/-- A struct with one number. -/
def single (field : String) (format : NumberFormat) : TypeNode :=
  .struct [.plain field (.littleNumber format)]

/-- Where there are no links, none is followed to an alias. -/
theorem followsNoAlias_inPlace (node : TypeNode) : inPlace.FollowsNoAlias node := by
  intro name program defined _ htarget
  cases program <;> cases htarget

/-- A struct in a field of a struct has a name of its own, and both are declared as they are laid
out. -/
theorem declarations_iff_vault : ∃ manifest,
    inPlace.resolve (.struct [.plain "limits" (single "low" .u8)]) vaultContext = .ok manifest ∧
    ∀ cls name, manifest.codec.Contains cls → cls.className? = some name →
      ∃ declaration ∈ manifest.declarations, declaration.codec? = some cls := by
  let limits : Codec := .struct "VaultLimits" [⟨"low", .number .u8⟩]
  have hresolved : ∃ manifest,
      inPlace.resolve (.struct [.plain "limits" (single "low" .u8)]) vaultContext =
        .ok manifest ∧ manifest.codec = .struct "Vault" [⟨"limits", limits⟩] := ⟨_, rfl, rfl⟩
  obtain ⟨manifest, h, hcodec⟩ := hresolved
  refine ⟨manifest, h, (declarations_iff h rfl (followsNoAlias_inPlace _)).2.2.2.mpr ?_⟩
  -- There are two classes in the layout, and they are told apart by their names.
  have hclasses : ∀ cls name, manifest.codec.Contains cls → cls.className? = some name →
      (name = "Vault" ∧ cls = manifest.codec) ∨ (name = "VaultLimits" ∧ cls = limits) := by
    intro cls name hcls hname
    rcases Codec.contains_iff.mp hcls with rfl | ⟨part, hpart, hcls⟩
    · rw [hcodec] at hname
      exact .inl ⟨(Option.some.inj hname).symm, rfl⟩
    · rw [hcodec] at hpart
      obtain rfl := List.mem_singleton.mp hpart
      rcases Codec.contains_iff.mp hcls with rfl | ⟨part, hpart, hcls⟩
      · exact .inr ⟨(Option.some.inj hname).symm, rfl⟩
      · obtain rfl := List.mem_singleton.mp hpart
        cases hcls with
        | here => cases hname
        | inside hpart => cases hpart
  intro cls cls' name hcls hcls' hname hname'
  rcases hclasses cls name hcls hname with ⟨rfl, rfl⟩ | ⟨rfl, rfl⟩ <;>
    rcases hclasses cls' _ hcls' hname' with ⟨heq, rfl⟩ | ⟨heq, rfl⟩
  · rfl
  · exact absurd heq (by decide)
  · exact absurd heq (by decide)
  · rfl

/-- Two structs in a tuple are both called like the tuple, and only the first one is declared. -/
theorem not_declarations_pair : ∃ manifest,
    vaultContext.declares = true ∧
    inPlace.FollowsNoAlias (.tuple [single "a" .u8, single "b" .u16]) ∧
    inPlace.resolve (.tuple [single "a" .u8, single "b" .u16]) vaultContext = .ok manifest ∧
    ¬ ∀ cls name, manifest.codec.Contains cls → cls.className? = some name →
      ∃ declaration ∈ manifest.declarations, declaration.codec? = some cls := by
  refine ⟨_, rfl, followsNoAlias_inPlace _, rfl, fun hall => ?_⟩
  have hsecond : Codec.Contains
      (.tuple [.struct "Vault" [⟨"a", .number .u8⟩], .struct "Vault" [⟨"b", .number .u16⟩]])
      (.struct "Vault" [⟨"b", .number .u16⟩]) :=
    .inside (List.mem_cons_of_mem _ List.mem_cons_self) (.here _)
  obtain ⟨declaration, hmem, hcodec⟩ := hall _ _ hsecond rfl
  obtain rfl := List.mem_singleton.mp hmem
  have hfields := (Codec.struct.inj (Option.some.inj hcodec)).2
  exact absurd (congrArg (List.map FieldCodec.name) hfields) (by decide)

end Resolver

end DartClient
