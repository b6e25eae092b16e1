import DartClient.Proofs.Codec.Unknown
import DartClient.Proofs.Manifest.Declarations

/-!
# No degradation is silent

A type of unknown kind becomes a part without layout, and a diagnostic says so. The part ends up
somewhere in a layout, below lists, maps, classes and aliases; the diagnostic is handed up beside
the layout, through classes that take over what their parts need. Neither gets lost on its way and
neither is handed up twice: the diagnostics of a type are those of the parts of unknown kind in its
layout, one for each and in their order.

## Main definitions

* `Codec.unknownKinds`: the parts of unknown kind, from left to right.
* `Manifest.ReportsUnknown`: the diagnostics are those of the parts of unknown kind.

## Main results

* `Resolver.reportsUnknown_of_composes`: a manifest that is put together reports what its parts do.
* `Resolver.length_diagnostics_eq`: there are as many diagnostics as parts of unknown kind.
-/

namespace DartClient

open Idl (TypeNode StructField EnumVariant NumberFormat)

/-! ## The parts of unknown kind -/

mutual

/-- The kinds of the parts without layout, from left to right. References to other classes are not
followed. -/
def Codec.unknownKinds : Codec → List String
  | .unknown kind => [kind]
  | .option item _ _ | .list item _ | .typedArray item _ | .set item _
  | .sizePrefixed item _ | .fixedSize item _ => item.unknownKinds
  | .map key value _ => key.unknownKinds ++ value.unknownKinds
  | .tuple items => unknownKindsOfItems items
  | .struct _ fields => unknownKindsOfFields fields
  | .enum _ _ variants => unknownKindsOfVariants variants
  | _ => []

/-- The kinds of the parts without layout of items in a row. -/
def unknownKindsOfItems : List Codec → List String
  | [] => []
  | item :: items => item.unknownKinds ++ unknownKindsOfItems items

/-- The kinds of the parts without layout of fields in a row. -/
def unknownKindsOfFields : List FieldCodec → List String
  | [] => []
  | ⟨_, codec⟩ :: fields => codec.unknownKinds ++ unknownKindsOfFields fields

/-- The kinds of the parts without layout of a payload. -/
def Payload.unknownKinds : Payload → List String
  | .empty => []
  | .tuple items => unknownKindsOfItems items
  | .struct fields => unknownKindsOfFields fields

/-- The kinds of the parts without layout of variants. -/
def unknownKindsOfVariants : List VariantCodec → List String
  | [] => []
  | ⟨_, _, payload⟩ :: variants => payload.unknownKinds ++ unknownKindsOfVariants variants

end

theorem unknownKindsOfItems_eq_flatMap (items : List Codec) :
    unknownKindsOfItems items = items.flatMap Codec.unknownKinds := by
  induction items with
  | nil => rfl
  | cons item items ih => rw [unknownKindsOfItems, ih, List.flatMap_cons]

/-- The names of fields do not count. -/
theorem unknownKindsOfFields_eq_items : ∀ fields : List FieldCodec,
    unknownKindsOfFields fields = unknownKindsOfItems (fields.map FieldCodec.codec)
  | [] => rfl
  | ⟨_, _⟩ :: fields => by
    rw [unknownKindsOfFields, unknownKindsOfFields_eq_items fields, List.map_cons,
      unknownKindsOfItems]

theorem Payload.unknownKinds_eq_items (payload : Payload) :
    payload.unknownKinds = unknownKindsOfItems payload.codecs := by
  cases payload with
  | empty | tuple => rfl
  | struct fields => exact unknownKindsOfFields_eq_items fields

theorem unknownKindsOfVariants_eq_items : ∀ variants : List VariantCodec,
    unknownKindsOfVariants variants =
      unknownKindsOfItems (variants.flatMap fun variant => variant.payload.codecs)
  | [] => rfl
  | ⟨_, _, payload⟩ :: variants => by
    rw [unknownKindsOfVariants, unknownKindsOfVariants_eq_items variants,
      payload.unknownKinds_eq_items, List.flatMap_cons]
    simp only [unknownKindsOfItems_eq_flatMap, List.flatMap_append]

namespace Codec

/-- The kind of a codec that is itself of unknown kind. -/
def unknownKind? : Codec → Option String
  | .unknown kind => some kind
  | _ => none

/-- **The parts of unknown kind** are the codec itself, if it is one, and those of its parts. -/
theorem unknownKinds_eq (codec : Codec) :
    codec.unknownKinds = codec.unknownKind?.toList ++ codec.parts.flatMap unknownKinds := by
  cases codec
  case struct name fields =>
    simp only [unknownKinds, unknownKind?, parts, unknownKindsOfFields_eq_items,
      unknownKindsOfItems_eq_flatMap, Option.toList_none, List.nil_append]
  case enum name size variants =>
    simp only [unknownKinds, unknownKind?, parts, unknownKindsOfVariants_eq_items,
      unknownKindsOfItems_eq_flatMap, Option.toList_none, List.nil_append]
  case tuple items =>
    simp only [unknownKinds, unknownKind?, parts, unknownKindsOfItems_eq_flatMap,
      Option.toList_none, List.nil_append]
  all_goals simp [unknownKinds, unknownKind?, parts]

/-- A codec that is not of unknown kind itself has the parts of unknown kind that its parts have. -/
theorem unknownKinds_eq_flatMap {codec : Codec} (h : codec.unknownKind? = none) :
    codec.unknownKinds = codec.parts.flatMap unknownKinds := by
  rw [unknownKinds_eq, h, Option.toList_none, List.nil_append]

theorem unknownKind?_of_element? {codec inner : Codec} (h : codec.element? = some inner) :
    codec.unknownKind? = none := by
  cases codec <;> cases h <;> rfl

theorem isUnknown_iff {codec : Codec} :
    codec.isUnknown = true ↔ codec.unknownKind?.toList ≠ [] := by
  cases codec <;> simp [isUnknown, unknownKind?]

/-- A codec contains a part of unknown kind exactly if there is one from left to right. -/
theorem containsUnknown_iff_unknownKinds (codec : Codec) :
    codec.containsUnknown = true ↔ codec.unknownKinds ≠ [] := by
  induction codec using induction_parts with
  | step codec ih =>
  rw [containsUnknown_iff, unknownKinds_eq, isUnknown_iff]
  simp only [ne_eq, List.append_eq_nil_iff, List.flatMap_eq_nil_iff, not_and_or, not_forall,
    exists_prop]
  exact or_congr_right (exists_congr fun part => and_congr_right fun hpart => ih part hpart)

end Codec

/-! ## Diagnostics are handed up -/

namespace Manifest

variable {manifest : Manifest}

@[simp] theorem diagnostics_declare (manifest : Manifest) (declaration : Declaration) :
    (manifest.declare declaration).diagnostics = manifest.diagnostics := by
  obtain ⟨_, h⟩ := manifest.exists_declare_eq declaration
  rw [h]

theorem diagnostics_absorb (manifest child : Manifest) :
    (manifest.absorb child).diagnostics = manifest.diagnostics ++ child.diagnostics := by
  obtain ⟨_, h⟩ := exists_foldl_declare_eq child.declarations
    { manifest with imports := manifest.imports.merge child.imports }
  rw [absorb, h]

/-- Each of the manifests that are absorbed hands up its diagnostics once, in its place. -/
theorem diagnostics_foldl_absorb (children : List Manifest) :
    (children.foldl absorb manifest).diagnostics =
      manifest.diagnostics ++ children.flatMap diagnostics := by
  induction children generalizing manifest with
  | nil => exact (List.append_nil _).symm
  | cons child children ih =>
    rw [List.foldl_cons, ih, diagnostics_absorb, List.flatMap_cons, List.append_assoc]

end Manifest

/-- A class reports what its parts report, whether it stands beside its user or is the user. -/
theorem diagnostics_classManifest (ctx : ResolveContext) (name : String) (codec : Codec)
    (shape : Shape) (children : List Manifest) :
    (classManifest ctx name codec shape children).diagnostics =
      children.flatMap Manifest.diagnostics := by
  have hneeds : (children.foldl Manifest.absorb (.leaf name codec)).diagnostics =
      children.flatMap Manifest.diagnostics := Manifest.diagnostics_foldl_absorb children
  unfold classManifest
  split
  · rw [Manifest.diagnostics_declare, hneeds]
  · exact hneeds

/-! ## Putting together -/

/-- What is said of a part of unknown kind. -/
def degradation (kind : String) : String :=
  "unsupported type node `" ++ kind ++ "` rendered as `Object` without a codec"

/-- The diagnostics are those of the parts of unknown kind, in their order. -/
def Manifest.ReportsUnknown (manifest : Manifest) : Prop :=
  manifest.diagnostics.map Diagnostic.message = manifest.codec.unknownKinds.map degradation

namespace Resolver

variable {resolver : Resolver} {node : TypeNode} {ctx : ResolveContext} {manifest : Manifest}
  {children : List Manifest}

theorem reportsUnknown_of_isLeaf (h : IsLeaf manifest) : manifest.ReportsUnknown := by
  cases h <;> rfl

/-- Only the types directly inside a type report something. -/
theorem diagnostics_of_composes (h : resolver.Composes ctx node children manifest)
    (hleaf : ¬ IsLeaf manifest) :
    manifest.diagnostics = children.flatMap Manifest.diagnostics := by
  cases h with
  | leaf _ _ h => exact absurd h hleaf
  | around | sized => exact (List.append_nil _).symm
  | map =>
    show (Manifest.absorb _ _).diagnostics = _
    rw [Manifest.diagnostics_absorb, List.flatMap_cons, List.flatMap_cons, List.flatMap_nil,
      List.append_nil]
  | tuple => exact Manifest.diagnostics_foldl_absorb children
  | structLink | enumLink => rfl
  | struct | enum => exact diagnostics_classManifest _ _ _ _ _

/-- A class in place is not itself of unknown kind. -/
theorem unknownKind?_of_isClass (h : resolver.Builds node ctx manifest)
    (hclass : node.isClass = true) : manifest.codec.unknownKind? = none := by
  cases node
  case struct =>
    obtain ⟨children, rfl⟩ := exists_structClass_of_builds h
    rw [structClass, codec_classManifest]
    rfl
  case enum =>
    obtain ⟨format, parts, -, rfl⟩ := exists_enumClass_of_builds h
    rw [enumClass, codec_classManifest]
    rfl
  all_goals cases hclass

/-- What has to stand beside the type has the parts of unknown kind that the type has. -/
theorem flatMap_unknownKinds_tops (h : resolver.Builds node ctx manifest)
    (hctx : ctx.declares = true ∨ node.isClass = true) :
    (tops ctx manifest.codec).flatMap Codec.unknownKinds = manifest.codec.unknownKinds := by
  unfold tops
  split
  case isTrue => exact List.flatMap_singleton ..
  case isFalse hdeclares =>
    have hclass := hctx.resolve_left hdeclares
    exact (Codec.unknownKinds_eq_flatMap (unknownKind?_of_isClass h hclass)).symm

theorem flatMap_unknownKinds_placed {parts : List Placed} (h : resolver.BuildsAll parts children)
    (hctx : ∀ part ∈ parts, part.2.declares = true ∨ part.1.isClass = true) :
    ((parts.zip children).flatMap fun pair => tops pair.1.2 pair.2.codec).flatMap
        Codec.unknownKinds =
      children.flatMap fun child => child.codec.unknownKinds := by
  induction h with
  | nil => rfl
  | cons hhead _ ih =>
    obtain ⟨hpart, hparts⟩ := List.forall_mem_cons.mp hctx
    rw [List.zip_cons_cons, List.flatMap_cons, List.flatMap_append, ih hparts, List.flatMap_cons,
      flatMap_unknownKinds_tops hhead hpart]

/-- The parts of unknown kind are those of the types directly inside. -/
theorem unknownKinds_of_composes (h : resolver.Composes ctx node children manifest)
    (hbuilds : resolver.BuildsAll (node.placed ctx) children) (hleaf : ¬ IsLeaf manifest) :
    manifest.codec.unknownKinds = children.flatMap fun child => child.codec.unknownKinds := by
  cases hclass : node.isClass with
  | true =>
    -- The payloads of an enum are taken apart, so the parts of its layout are not its children.
    rcases parts_of_composes h (.inr hclass) hbuilds with ⟨-, h⟩ | hparts
    · exact absurd h hleaf
    · have hown := unknownKind?_of_isClass (builds_of_composes h hbuilds) hclass
      rw [Codec.unknownKinds_eq_flatMap hown, hparts]
      apply flatMap_unknownKinds_placed hbuilds
      exact fun part hpart => declares_or_isClass_of_mem_placed hpart (.inr hclass)
  | false =>
    cases h with
    | leaf _ _ h => exact absurd h hleaf
    | around _ _ _ _ hcodec | sized _ _ hcodec =>
      refine (Codec.unknownKinds_eq_flatMap (Codec.unknownKind?_of_element? hcodec)).trans ?_
      rw [Codec.parts_of_element? hcodec]
      rfl
    | map => exact Codec.unknownKinds_eq_flatMap rfl
    | tuple =>
      refine (Codec.unknownKinds_eq_flatMap rfl).trans ?_
      exact List.flatMap_map ..
    | structLink | enumLink => rfl
    | struct | enum => cases hclass

/-- **One step**: a manifest that is put together reports what its parts report. -/
theorem reportsUnknown_of_composes (h : resolver.Composes ctx node children manifest)
    (hbuilds : resolver.BuildsAll (node.placed ctx) children)
    (hchildren : ∀ child ∈ children, child.ReportsUnknown) : manifest.ReportsUnknown := by
  by_cases hleaf : IsLeaf manifest
  · exact reportsUnknown_of_isLeaf hleaf
  · rw [Manifest.ReportsUnknown, diagnostics_of_composes h hleaf,
      unknownKinds_of_composes h hbuilds hleaf, List.map_flatMap, List.map_flatMap]
    exact List.flatMap_congr hchildren

/-- **Every manifest that is built** reports its parts of unknown kind. -/
theorem reportsUnknown_of_builds (h : resolver.Builds node ctx manifest) :
    manifest.ReportsUnknown := by
  induction h with
  | compose hcomposes hlength hchildren ih =>
    apply reportsUnknown_of_composes hcomposes
    · exact forall₂_of_zip hlength hchildren
    · intro child hchild
      obtain ⟨part, hpart⟩ := exists_mem_zip_of_mem_right hlength hchild
      exact ih _ hpart
  -- An alias keeps the layout and the diagnostics of what it stands for.
  | synonym _ _ _ ih => exact ih

/-- Arguments are built as the fields of a struct. -/
theorem builds_of_resolveArguments {arguments : List Idl.Argument}
    (h : resolver.resolveArguments arguments ctx = .ok manifest) :
    resolver.Builds (.struct (arguments.map Idl.Argument.toField)) ctx manifest :=
  builds_of_struct (fun hchild => builds_of_resolve hchild) h

/-- **No degradation is silent.** A type or a list of arguments that is resolved has as many
diagnostics as its layout has parts of unknown kind, so there is a diagnostic if and only if a part
has no layout; and the diagnostics name these parts from left to right. -/
theorem length_diagnostics_eq {arguments : List Idl.Argument}
    (h : resolver.resolve node ctx = .ok manifest ∨
      resolver.resolveArguments arguments ctx = .ok manifest) :
    manifest.diagnostics.length = manifest.codec.unknownKinds.length ∧
    (manifest.codec.containsUnknown = true ↔ manifest.diagnostics ≠ []) ∧
    manifest.diagnostics.map Diagnostic.message =
      manifest.codec.unknownKinds.map degradation := by
  have hreports : manifest.ReportsUnknown := by
    rcases h with h | h
    · exact reportsUnknown_of_builds (builds_of_resolve h)
    · exact reportsUnknown_of_builds (builds_of_resolveArguments h)
  have hlength : manifest.diagnostics.length = manifest.codec.unknownKinds.length := by
    have hmapped := congrArg List.length hreports
    rwa [List.length_map, List.length_map] at hmapped
  refine ⟨hlength, ?_, hreports⟩
  rw [Codec.containsUnknown_iff_unknownKinds, ← List.length_pos_iff_ne_nil,
    ← List.length_pos_iff_ne_nil, hlength]

/-- A program in which a riddle is another name for an option of something unknown. -/
def riddles : Resolver :=
  ⟨.ofPrograms [.ofTypes "main" [⟨"riddle", .optional .unknown, []⟩]], "main"⟩

/-- A struct with something unknown as value of a map, as item of a tuple, in the payload of a
variant, and behind an alias. -/
def puzzle : TypeNode := .struct [
  .plain "clues" (.map .text .unknown .borsh),
  .plain "pair" (.tuple [.flag, .unknown]),
  .plain "guess" (.enum [.empty "none", .tuple "some" [.unknown, .flag]] ⟨.u8, .little⟩),
  .plain "hint" (.defined "riddle")]

/-- All four are reported. -/
theorem length_diagnostics_puzzle : ∃ manifest,
    riddles.resolve puzzle (.root "Puzzle" .type) = .ok manifest ∧
    manifest.codec.containsUnknown = true ∧ manifest.diagnostics.length = 4 := by
  have hresolved : ∃ manifest, riddles.resolve puzzle (.root "Puzzle" .type) = .ok manifest ∧
      manifest.codec.unknownKinds = List.replicate 4 "unknown" := ⟨_, rfl, rfl⟩
  obtain ⟨manifest, h, hkinds⟩ := hresolved
  obtain ⟨hlength, hcontains, -⟩ := @length_diagnostics_eq _ _ _ _ [] (.inl h)
  rw [hkinds, List.length_replicate] at hlength
  refine ⟨manifest, h, hcontains.mpr ?_, hlength⟩
  exact List.ne_nil_of_length_pos (by omega)

end Resolver

end DartClient
