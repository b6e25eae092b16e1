import DartClient.Proofs.Manifest.Declarations
import DartClient.Proofs.Manifest.Shapes

/-!
# Innermost first

The classes beside a type are written one after the other, and a class may use those in front of it.
A type declares its own class behind everything that the types inside it need. These lists are
absorbed one by one, and what is declared already is left out, so a class may end up far from those
it was declared with. All the same whatever it mentions stands in front of it: where a class was
left out, one of its name stands there already.

## Main definitions

* `Declaration.Mentions`: the fields and payloads of a class mention a class in place.
* `InnermostFirst`: every class stands behind those that it mentions.

## Main results

* `Manifest.innermostFirst_absorb`: absorbing keeps this order.
* `Resolver.innermostFirst_of_builds`: everything that is built has it, unless an alias is followed.
* `Resolver.innermost_first`: the classes beside a type are in this order, each name once.
-/

namespace DartClient

open Idl (TypeNode)

/-! ## What a class mentions -/

/-- The layouts of the fields of a class, or of those of its variants. -/
def Shape.codecs : Shape → List Codec
  | .plain => []
  | .struct fields => fields.map FieldManifest.codec
  | .enum _ variants => variants.flatMap fun variant =>
      variant.payload.fields.map FieldManifest.codec

namespace Declaration

/-- The fields and payloads of a class mention a class in place of the given name, at any depth. -/
def Mentions (declaration : Declaration) (cls : Codec) (name : String) : Prop :=
  cls.className? = some name ∧ ∃ part ∈ declaration.shape.codecs, part.Contains cls

/-- The parts of the layout of a class are the layouts of its fields and payloads. -/
theorem parts_of_codec? {declaration : Declaration} {codec : Codec}
    (h : declaration.codec? = some codec) : codec.parts = declaration.shape.codecs := by
  obtain ⟨name, shape⟩ := declaration
  cases shape with
  | plain => cases h
  | struct fields =>
    obtain rfl := Option.some.inj h
    exact List.map_map
  | enum size variants =>
    obtain rfl := Option.some.inj h
    refine (List.flatMap_map ..).trans (List.flatMap_congr fun variant _ => ?_)
    exact variant.payload.codecs_codec

end Declaration

/-- Every class stands behind those that it mentions. -/
def InnermostFirst (declarations : List Declaration) : Prop :=
  ∀ before declaration after, declarations = before ++ declaration :: after →
    ∀ cls name, declaration.Mentions cls name → name ∈ before.map Declaration.name

theorem innermostFirst_nil : InnermostFirst [] := by
  intro before declaration after h
  cases List.append_eq_nil_iff.mp h.symm |>.2

/-- A class may be put behind all that it mentions. -/
theorem InnermostFirst.concat {declarations : List Declaration} {last : Declaration}
    (h : InnermostFirst declarations) (hlast : ∀ cls name, last.Mentions cls name →
      name ∈ declarations.map Declaration.name) : InnermostFirst (declarations ++ [last]) := by
  intro before declaration after hsplit
  rcases List.eq_nil_or_concat' after with rfl | ⟨after, other, rfl⟩
  · obtain ⟨rfl, hlast'⟩ := List.append_inj' hsplit rfl
    obtain rfl := List.singleton_inj.mp hlast'
    exact hlast
  · -- What stands in front of another class does so without the last one.
    rw [← List.cons_append, ← List.append_assoc] at hsplit
    exact h before declaration after (List.append_inj' hsplit rfl).1

namespace Manifest

variable {manifest child : Manifest}

theorem innermostFirst_declare (h : InnermostFirst manifest.declarations)
    {declaration : Declaration} (hmentions : ∀ cls name, declaration.Mentions cls name →
      name ∈ manifest.declaredNames) :
    InnermostFirst (manifest.declare declaration).declarations := by
  unfold declare
  split
  case isTrue => exact h
  case isFalse => exact h.concat hmentions

/-- Classes are declared one by one. Each may mention what was there before and those in front of
it. -/
theorem innermostFirst_foldl_declare (declarations : List Declaration)
    (h : InnermostFirst manifest.declarations)
    (hmentions : ∀ before declaration after, declarations = before ++ declaration :: after →
      ∀ cls name, declaration.Mentions cls name →
        name ∈ manifest.declaredNames ∨ name ∈ before.map Declaration.name) :
    InnermostFirst (declarations.foldl declare manifest).declarations := by
  induction declarations generalizing manifest with
  | nil => exact h
  | cons first declarations ih =>
    apply ih
    · apply innermostFirst_declare h
      intro cls name hname
      exact (hmentions [] first declarations rfl cls name hname).resolve_right List.not_mem_nil
    · intro before declaration after hsplit cls name hname
      -- The first class is declared by now, or one of its name.
      rw [mem_declaredNames_declare]
      have hsplit := congrArg (first :: ·) hsplit
      rcases hmentions (first :: before) declaration after hsplit cls name hname with hold | hmem
      · exact .inl (.inl hold)
      · rcases List.mem_cons.mp hmem with rfl | hmem
        · exact .inl (.inr rfl)
        · exact .inr hmem

/-- **Absorbing keeps the order**, although it leaves out what is declared already. -/
theorem innermostFirst_absorb (h : InnermostFirst manifest.declarations)
    (hchild : InnermostFirst child.declarations) :
    InnermostFirst (manifest.absorb child).declarations :=
  innermostFirst_foldl_declare child.declarations h
    fun before declaration after hsplit cls name hname =>
      .inr (hchild before declaration after hsplit cls name hname)

theorem innermostFirst_foldl_absorb (children : List Manifest)
    (h : InnermostFirst manifest.declarations)
    (hchildren : ∀ child ∈ children, InnermostFirst child.declarations) :
    InnermostFirst (children.foldl absorb manifest).declarations := by
  induction children generalizing manifest with
  | nil => exact h
  | cons child children ih =>
    obtain ⟨hchild, hchildren⟩ := List.forall_mem_cons.mp hchildren
    exact ih (innermostFirst_absorb h hchild) hchildren

end Manifest

/-- A class stands behind all that its parts need. -/
theorem innermostFirst_classManifest {ctx : ResolveContext} {own : String} {codec : Codec}
    {shape : Shape} {children : List Manifest}
    (hchildren : ∀ child ∈ children, InnermostFirst child.declarations)
    (hown : ctx.declares = true → ∀ cls name, (Declaration.mk own shape).Mentions cls name →
      ∃ child ∈ children, name ∈ child.declaredNames) :
    InnermostFirst (classManifest ctx own codec shape children).declarations := by
  have hneeds : InnermostFirst (children.foldl Manifest.absorb (.leaf own codec)).declarations :=
    Manifest.innermostFirst_foldl_absorb children innermostFirst_nil hchildren
  unfold classManifest
  split
  case isTrue hdeclares =>
    apply Manifest.innermostFirst_declare hneeds
    intro cls name hname
    rw [Manifest.mem_declaredNames_foldl_absorb]
    exact .inr (hown hdeclares cls name hname)
  case isFalse => exact hneeds

namespace Resolver

variable {resolver : Resolver} {node : TypeNode} {ctx : ResolveContext} {manifest : Manifest}
  {children : List Manifest}

/-- What a class mentions is declared beside one of the types inside it. -/
theorem exists_declares_of_mentions {declaration : Declaration} {cls : Codec} {name : String}
    (h : resolver.Composes ctx node children manifest)
    (hbuilds : resolver.BuildsAll (node.placed ctx) children) (hclass : node.isClass = true)
    (halias : resolver.FollowsNoAlias node) (hcodec : declaration.codec? = some manifest.codec)
    (hname : declaration.Mentions cls name) : ∃ child ∈ children, name ∈ child.declaredNames := by
  rw [Declaration.Mentions, ← Declaration.parts_of_codec? hcodec] at hname
  obtain ⟨pair, hpair, hexposes⟩ :=
    (exists_part_iff_of_composes h (.inr hclass) hbuilds).mp hname
  obtain ⟨hplaced, hchild⟩ := List.of_mem_zip hpair
  refine ⟨pair.2, hchild, ?_⟩
  apply mem_declaredNames_of_exposes ((List.forall₂_iff_zip.mp hbuilds).2 hpair) _ _ hexposes
  · exact declares_or_isClass_of_mem_placed hplaced (.inr hclass)
  · exact halias.of_mem_placed hplaced

/-- **One step**: a manifest that is put together has its classes in order if its parts do. -/
theorem innermostFirst_of_composes (h : resolver.Composes ctx node children manifest)
    (hbuilds : resolver.BuildsAll (node.placed ctx) children)
    (halias : resolver.FollowsNoAlias node)
    (hchildren : ∀ child ∈ children, InnermostFirst child.declarations) :
    InnermostFirst manifest.declarations := by
  have hcomposes := h
  cases h with
  | leaf _ _ hleaf => cases hleaf <;> exact innermostFirst_nil
  | structLink | enumLink => exact innermostFirst_nil
  | around | sized => exact (List.forall_mem_cons.mp hchildren).1
  | map =>
    obtain ⟨hkey, hrest⟩ := List.forall_mem_cons.mp hchildren
    exact Manifest.innermostFirst_absorb hkey (hrest _ List.mem_cons_self)
  | tuple => exact Manifest.innermostFirst_foldl_absorb _ innermostFirst_nil hchildren
  | struct | enum =>
    apply innermostFirst_classManifest hchildren
    intro _ cls name hname
    apply exists_declares_of_mentions hcomposes hbuilds rfl halias _ hname
    exact congrArg some (codec_classManifest ..).symm

/-- **Everything that is built** has its classes in order, unless an alias is followed. -/
theorem innermostFirst_of_builds (h : resolver.Builds node ctx manifest) :
    resolver.FollowsNoAlias node → InnermostFirst manifest.declarations := by
  induction h with
  | compose hcomposes hlength hchildren ih =>
    intro halias
    apply innermostFirst_of_composes hcomposes _ halias
    · intro child hchild
      obtain ⟨part, hpair⟩ := exists_mem_zip_of_mem_right hlength hchild
      exact ih _ hpair (halias.of_mem_placed (List.of_mem_zip hpair).1)
    · exact forall₂_of_zip hlength hchildren
  -- The classes of an alias stand with the alias.
  | synonym => exact fun _ => innermostFirst_nil

/-- **The classes beside a type stand innermost first**, each name once. Where classes stand beside
the type and no link leads to an alias, whatever the fields and payloads of a class mention has its
declaration further in front. The declaration is that of the very class that is mentioned, unless a
different class of the type has the same name. -/
theorem innermost_first (h : resolver.resolve node ctx = .ok manifest) :
    manifest.declaredNames.Nodup ∧
    (ctx.declares = true → resolver.FollowsNoAlias node →
      ∀ before declaration after, manifest.declarations = before ++ declaration :: after →
        ∀ cls name, declaration.Mentions cls name → ∃ earlier ∈ before, earlier.name = name ∧
          ((∀ other, manifest.codec.Contains other → other.className? = some name → other = cls) →
            earlier.codec? = some cls)) := by
  have hbuilds := builds_of_resolve h
  refine ⟨nodup_of_builds hbuilds, fun hctx halias before declaration after hsplit => ?_⟩
  intro cls name hname
  have hordered := innermostFirst_of_builds hbuilds halias
  obtain ⟨earlier, hearlier, hsame⟩ :=
    List.mem_map.mp (hordered before declaration after hsplit cls name hname)
  refine ⟨earlier, hearlier, hsame, fun hunique => ?_⟩
  -- What is declared under the name occurs in the layout of the type.
  have hmem : earlier ∈ manifest.declarations := by
    rw [hsplit]
    exact List.mem_append_left _ hearlier
  obtain ⟨own, hcodec, hexposes⟩ :=
    exists_exposes_of_mem_declarations hbuilds (.inl hctx) halias hmem
  obtain ⟨hown, hcontains⟩ := (exposes_iff hctx).mp hexposes
  rw [hsame] at hown
  rw [hcodec, hunique own hcontains hown]

/-- The layout of a rate. -/
def rateCodec : Codec := .struct "PaidRate" [⟨"per", .number .u16⟩]

/-- The layout of a plan that has a rate if it is paid. -/
def planCodec : Codec := .enum "VaultPlan" .u8 [⟨"Paid", 0, .struct [⟨"rate", rateCodec⟩]⟩]

/-- The only class of its name in a vault with a plan is the rate. -/
theorem eq_rateCodec {other : Codec}
    (h : (Codec.struct "Vault" [⟨"plan", planCodec⟩]).Contains other)
    (hname : other.className? = some "PaidRate") : other = rateCodec := by
  rcases Codec.contains_iff.mp h with rfl | ⟨part, hpart, h⟩
  · exact absurd (Option.some.inj hname) (by decide)
  obtain rfl := List.mem_singleton.mp hpart
  rcases Codec.contains_iff.mp h with rfl | ⟨part, hpart, h⟩
  · exact absurd (Option.some.inj hname) (by decide)
  obtain rfl := List.mem_singleton.mp hpart
  rcases Codec.contains_iff.mp h with rfl | ⟨part, hpart, h⟩
  · rfl
  -- There is but a number in a rate.
  obtain rfl := List.mem_singleton.mp hpart
  cases h with
  | here => cases hname
  | inside hpart => cases hpart

/-- A vault stands behind its plan and the rate of the plan. -/
theorem innermost_first_vault : ∃ manifest before vault,
    inPlace.resolve (.struct [.plain "plan" (.enum [.struct "paid"
      [.plain "rate" (single "per" .u16)]] ⟨.u8, .little⟩)]) vaultContext = .ok manifest ∧
    manifest.declarations = before ++ [vault] ∧ vault.name = "Vault" ∧
    before.map Declaration.name = ["PaidRate", "VaultPlan"] ∧
    ∃ earlier ∈ before, earlier.codec? = some rateCodec := by
  have hresolved : ∃ manifest before vault,
      inPlace.resolve (.struct [.plain "plan" (.enum [.struct "paid"
        [.plain "rate" (single "per" .u16)]] ⟨.u8, .little⟩)]) vaultContext = .ok manifest ∧
      manifest.declarations = before ++ [vault] ∧ vault.name = "Vault" ∧
      before.map Declaration.name = ["PaidRate", "VaultPlan"] ∧
      vault.shape.codecs = [planCodec] ∧ manifest.codec = .struct "Vault" [⟨"plan", planCodec⟩] :=
    ⟨_, [_, _], _, rfl, rfl, rfl, rfl, rfl, rfl⟩
  obtain ⟨manifest, before, vault, h, hsplit, hvault, hbefore, hshape, hcodec⟩ := hresolved
  refine ⟨manifest, before, vault, h, hsplit, hvault, hbefore, ?_⟩
  have hmentions : vault.Mentions rateCodec "PaidRate" := by
    refine ⟨rfl, planCodec, ?_, .inside List.mem_cons_self (.here rateCodec)⟩
    rw [hshape]
    exact List.mem_singleton_self planCodec
  obtain ⟨earlier, hearlier, -, hown⟩ := (innermost_first h).2 rfl (followsNoAlias_inPlace _)
    before vault [] hsplit rateCodec "PaidRate" hmentions
  refine ⟨earlier, hearlier, hown fun other hother hname => ?_⟩
  rw [hcodec] at hother
  exact eq_rateCodec hother hname

end Resolver

end DartClient
