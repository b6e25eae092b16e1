import DartClient.Proofs.Manifest.SideBySide

/-!
# Contexts name classes and nothing else

Where a type stands decides how its classes are called, how fields are spelled, which classes stand
beside it and how deep it may go. The wire format does not depend on it. Two runs of the resolver on
one type, in any two contexts, are followed side by side: wherever both succeed, the codecs are the
same up to the names of classes, and the same is reported with the same messages.

## Main definitions

* `Manifest.Alike`: manifests with the same layout and the same messages.

## Main results

* `Resolver.alike_of_resolve`: a type has the same wire format in all contexts.
-/

namespace DartClient

open Idl (TypeNode)
open Resolved

/-! ## Manifests that are alike -/

/-- The manifests have the same layout, up to the names of classes, and report the same. -/
structure Manifest.Alike (manifest manifest' : Manifest) : Prop where
  /-- The layouts. -/
  codec : manifest.codec.anonymous = manifest'.codec.anonymous
  /-- What is reported. -/
  messages : manifest.messages = manifest'.messages

/-- The levels below give manifests that are alike, in any two contexts. -/
def ChildAlike (child child' : ResolveChild) : Prop :=
  ∀ node ctx ctx', Agree Manifest.Alike (child node ctx) (child' node ctx')

namespace Resolver

variable {resolver : Resolver}

/-- Runs of any two depths agree as far as both get. -/
theorem agree_resolveWithin (levels levels' : Nat) :
    ChildAlike (resolver.resolveWithin levels) (resolver.resolveWithin levels') := by
  intro node ctx ctx' manifest manifest' h h'
  have hrelated := related_resolveWithin Codec.isCongruence_anonymous levels levels' node ctx ctx'
    manifest manifest' h h'
  exact ⟨hrelated.codec, hrelated.messages⟩

/-- **A type has the same wire format in all contexts in which it is resolved.** The codecs are the
same up to the names of classes, and the same is reported. -/
theorem alike_of_resolve {node : TypeNode} {ctx ctx' : ResolveContext}
    {manifest manifest' : Manifest} (h : resolver.resolve node ctx = .ok manifest)
    (h' : resolver.resolve node ctx' = .ok manifest') :
    manifest.codec.anonymous = manifest'.codec.anonymous ∧
      (∀ value bytes, manifest.codec.encode value = .ok bytes ↔
        manifest'.codec.encode value = .ok bytes) ∧
      (∀ input value rest, manifest.codec.read input = (.ok value, rest) ↔
        manifest'.codec.read input = (.ok value, rest)) ∧
      manifest.codec.fixedSize? = manifest'.codec.fixedSize? ∧
      manifest.codec.maxSize? = manifest'.codec.maxSize? ∧
      manifest.diagnostics.map Diagnostic.message =
        manifest'.diagnostics.map Diagnostic.message := by
  have halike : manifest.Alike manifest' :=
    agree_resolveWithin _ _ node ctx ctx' manifest manifest' h h'
  have hwire := Codec.sameWire_of_anonymous_eq halike.codec
  refine ⟨halike.codec, fun value bytes => ?_, hwire.reads, hwire.size,
    Codec.maxSize?_eq_of_anonymous_eq halike.codec, halike.messages⟩
  rw [Codec.encode_eq_ok_iff, Codec.encode_eq_ok_iff]
  exact hwire.writes value bytes

/-- A struct with an enum and with a type of unknown kind. -/
def sale : TypeNode := .struct [
  .plain "kind" (.enum [.empty "cash", .tuple "card" [.publicKey]] ⟨.u8, .little⟩),
  .plain "note" .unknown]

/-- A sale is a class of its own or an unnamed class beside its user. It is called differently, and
everything else is the same. -/
theorem alike_of_resolve_sale : ∃ whole part fields fields',
    resolve ⟨.empty, "shop"⟩ sale (.root "Sale" .type) = .ok whole ∧
    resolve ⟨.empty, "shop"⟩ sale ⟨none, 7, true, false, .account⟩ = .ok part ∧
    whole.codec = .struct "Sale" fields ∧ part.codec = .struct "AnonymousStruct" fields' ∧
    anonymousFields fields = anonymousFields fields' ∧
    (∀ value bytes, whole.codec.encode value = .ok bytes ↔
      part.codec.encode value = .ok bytes) ∧
    whole.diagnostics.map Diagnostic.message = part.diagnostics.map Diagnostic.message := by
  obtain ⟨hcodec, hencode, -, -, -, hmessages⟩ := @alike_of_resolve ⟨.empty, "shop"⟩ sale
    (.root "Sale" .type) ⟨none, 7, true, false, .account⟩ _ _ rfl rfl
  exact ⟨_, _, _, _, rfl, rfl, rfl, rfl, (Codec.struct.inj hcodec).2, hencode, hmessages⟩

end Resolver

end DartClient
