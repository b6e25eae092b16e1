import DartClient.Proofs.Manifest.SideBySide

/-!
# Shortcuts of the resolver

A list of a fixed number of plain numbers becomes a typed list, and a size around a text or bytes
becomes its length. A resolver that takes none of these shortcuts is followed here beside the
resolver: it makes a list of every array, and a wrapper around a text or bytes up to the end of
every size. Wherever both succeed, the codecs have the same wire format and the same sizes.

## Main definitions

* `Resolver.plainLevel`: one level of a resolver without shortcuts.
* `Resolver.resolvePlainly`: the manifest of a type without shortcuts.

## Main results

* `Resolver.agree_plainLevel`: a level with shortcuts agrees with one without them.
* `Resolver.sameFormat_of_resolvePlainly`: the shortcuts change nothing on the wire.
-/

namespace DartClient

open Idl (TypeNode NumberType NumberFormat Count BytesEncoding)
open Resolved

/-! ## A resolver without shortcuts -/

/-- What a size wraps: a text or bytes up to the end, or what is one level down. -/
def restManifest (child : ResolveChild) : ResolveChild
  | .string encoding, ctx => stringManifest encoding .remainder "stringTypeNode" ctx
  | .bytes, _ => .ok (bytesManifest .remainder)
  | node, ctx => child node ctx

namespace Resolver

/-- The manifest of a type without shortcuts, given how the types one level down are resolved. -/
def plainLevel (resolver : Resolver) (child : ResolveChild) (node : TypeNode)
    (ctx : ResolveContext) : Resolved Manifest :=
  if maxTypeDepth < ctx.depth then refuse node.kind ctx .tooDeep
  else match node with
  | .array item count => do
    let count ← countLength count node.kind ctx
    let item ← child item ctx.item
    return item.wrap ("List<" ++ item.targetType ++ ">") (.list item.codec count)
  | .fixedSize inner size => do
    let inner ← restManifest child inner ctx.item
    return wrapKeepingShape inner (.fixedSize inner.codec size)
  | .sizePrefix inner width => do
    let width ← littleEndianFormat width node.kind ctx
    let inner ← restManifest child inner ctx.item
    return wrapKeepingShape inner (.sizePrefixed inner.codec width)
  | node => resolver.resolveLevel child node ctx

/-- The manifest of a type that goes at most so many levels down, without shortcuts. -/
def resolvePlainWithin (resolver : Resolver) : Nat → ResolveChild
  | 0 => fun node ctx => refuse node.kind ctx .tooDeep
  | levels + 1 => resolver.plainLevel (resolver.resolvePlainWithin levels)

/-- The manifest of a type without shortcuts. -/
def resolvePlainly (resolver : Resolver) (node : TypeNode) (ctx : ResolveContext) :
    Resolved Manifest :=
  resolver.resolvePlainWithin (levelsBelow ctx.depth) node ctx

variable {resolver : Resolver}

/-- Without shortcuts a number is a number. -/
theorem eq_leaf_of_resolvePlainWithin {levels : Nat} {format : NumberFormat} {ctx : ResolveContext}
    {manifest : Manifest}
    (h : resolver.resolvePlainWithin levels (.number ⟨format, .little⟩) ctx = .ok manifest) :
    ∃ targetType, manifest = .leaf targetType (.number format) := by
  cases levels with
  | zero => cases h
  | succ levels =>
    unfold resolvePlainWithin plainLevel resolveLevel at h
    split at h
    case isTrue => cases h
    case isFalse hdepth =>
      obtain ⟨format', hformat, h⟩ := Resolved.bind_eq_ok_iff.mp h
      obtain rfl := Except.ok.inj hformat
      obtain rfl := Except.ok.inj h
      exact ⟨_, rfl⟩

/-! ## The shortcuts -/

/-- The numbers of a typed list all have the same size. -/
theorem exists_byteWidth_of_typedItem? {item : TypeNode} {list : String} {format : NumberFormat}
    (h : typedItem? item = some (list, format)) : ∃ width, format.byteWidth? = some width := by
  have hlist := typedList?_of_typedItem? h
  cases format
  case u128 | i128 | shortU16 => cases hlist
  all_goals exact ⟨_, rfl⟩

/-- A text with a length is a text up to the end in a wrapper of the same format. -/
theorem agree_restText {length : Length} (wrapper : Codec → Codec)
    (h : (Codec.string length).SameFormat (wrapper (.string .remainder)))
    (encoding : BytesEncoding) (kind kind' : String) (ctx ctx' : ResolveContext) :
    Agree (Manifest.Related Codec.SameFormat) (stringManifest encoding length kind ctx) (do
      let inner ← stringManifest encoding .remainder kind' ctx'
      return wrapKeepingShape inner (wrapper inner.codec)) := by
  unfold stringManifest
  split
  case isTrue => exact agree_ok ⟨h, rfl⟩
  case isFalse => exact agree_error_left _ _

section Shortcuts

variable {child child' : ResolveChild} {ctx ctx' : ResolveContext}
  (hchild : ChildRelated Codec.SameFormat child child')
include hchild

/-- An array is a list either way, except that its plain numbers may stand in a typed list. -/
theorem agree_plainArray
    (hnumber : ∀ {format ctx manifest}, child' (.number ⟨format, .little⟩) ctx = .ok manifest →
      ∃ targetType, manifest = .leaf targetType (.number format))
    (hdepth : ¬ maxTypeDepth < ctx.depth) (hdepth' : ¬ maxTypeDepth < ctx'.depth)
    (item : TypeNode) (count : Count) :
    Agree (Manifest.Related Codec.SameFormat)
      (resolver.resolveLevel child (.array item count) ctx)
      (resolver.plainLevel child' (.array item count) ctx') := by
  unfold resolveLevel plainLevel
  rw [if_neg hdepth, if_neg hdepth']
  refine (agree_countLength count _ ctx ctx').bind_eq fun length => ?_
  split
  case h_1 size list format htyped =>
    obtain rfl := eq_number_of_typedItem? htyped
    obtain ⟨width, hwidth⟩ := exists_byteWidth_of_typedItem? htyped
    intro manifest manifest' h h'
    obtain rfl := Except.ok.inj h
    obtain ⟨inner, hinner, h'⟩ := Resolved.bind_eq_ok_iff.mp h'
    obtain rfl := Except.ok.inj h'
    obtain ⟨targetType, rfl⟩ := hnumber hinner
    exact ⟨.typedList hwidth size, rfl⟩
  case h_2 =>
    exact (hchild item _ _).map fun inner inner' h =>
      h.wrap _ _ (Codec.isCongruence_sameFormat.list _ h.codec)

/-- A size is a wrapper either way, except that it may be the length of a text or bytes. -/
theorem agree_plainFixedSize
    (hdepth : ¬ maxTypeDepth < ctx.depth) (hdepth' : ¬ maxTypeDepth < ctx'.depth)
    (inner : TypeNode) (size : Nat) :
    Agree (Manifest.Related Codec.SameFormat)
      (resolver.resolveLevel child (.fixedSize inner size) ctx)
      (resolver.plainLevel child' (.fixedSize inner size) ctx') := by
  unfold resolveLevel plainLevel
  rw [if_neg hdepth, if_neg hdepth']
  cases inner
  case string encoding =>
    exact agree_restText (.fixedSize · size) (.fixedText size) encoding _ _ ctx ctx'.item
  case bytes => exact agree_ok ⟨.fixedBytes size, rfl⟩
  all_goals
    exact (hchild _ _ _).map fun inner inner' h =>
      h.wrapKeepingShape (Codec.isCongruence_sameFormat.fixedSize size h.codec)

theorem agree_plainSizePrefix
    (hdepth : ¬ maxTypeDepth < ctx.depth) (hdepth' : ¬ maxTypeDepth < ctx'.depth)
    (inner : TypeNode) (width : NumberType) :
    Agree (Manifest.Related Codec.SameFormat)
      (resolver.resolveLevel child (.sizePrefix inner width) ctx)
      (resolver.plainLevel child' (.sizePrefix inner width) ctx') := by
  unfold resolveLevel plainLevel
  rw [if_neg hdepth, if_neg hdepth']
  refine (agree_littleEndianFormat width _ ctx ctx').bind_eq fun format => ?_
  cases inner
  case string encoding =>
    exact agree_restText (.sizePrefixed · format) (.prefixedText format) encoding _ _ ctx ctx'.item
  case bytes => exact agree_ok ⟨.prefixedBytes format, rfl⟩
  all_goals
    exact (hchild _ _ _).map fun inner inner' h =>
      h.wrapKeepingShape (Codec.isCongruence_sameFormat.sizePrefixed format h.codec)

/-- **A level with shortcuts agrees with one without them** if the levels below do, and the one
below without shortcuts leaves numbers as they are. -/
theorem agree_plainLevel
    (hnumber : ∀ {format ctx manifest}, child' (.number ⟨format, .little⟩) ctx = .ok manifest →
      ∃ targetType, manifest = .leaf targetType (.number format)) :
    ChildRelated Codec.SameFormat (resolver.resolveLevel child) (resolver.plainLevel child') := by
  intro node ctx ctx'
  by_cases hdepth : maxTypeDepth < ctx.depth
  · unfold resolveLevel
    rw [if_pos hdepth]
    exact agree_error_left _ _
  by_cases hdepth' : maxTypeDepth < ctx'.depth
  · unfold plainLevel
    rw [if_pos hdepth']
    exact agree_error_right _ _
  cases node
  case array item count => exact agree_plainArray hchild hnumber hdepth hdepth' item count
  case fixedSize inner size => exact agree_plainFixedSize hchild hdepth hdepth' inner size
  case sizePrefix inner width => exact agree_plainSizePrefix hchild hdepth hdepth' inner width
  -- Other types have no shortcuts.
  all_goals
    unfold plainLevel
    rw [if_neg hdepth']
    exact agree_resolveLevel Codec.isCongruence_sameFormat hchild _ ctx ctx'

end Shortcuts

/-! ## All levels -/

/-- The resolver agrees with the one without shortcuts as far as both get. -/
theorem related_resolvePlainWithin (levels levels' : Nat) :
    ChildRelated Codec.SameFormat (resolver.resolveWithin levels)
      (resolver.resolvePlainWithin levels') := by
  induction levels generalizing levels' with
  | zero => exact fun _ _ _ => agree_error_left _ _
  | succ levels ih =>
    cases levels' with
    | zero => exact fun _ _ _ => agree_error_right _ _
    | succ levels' => exact agree_plainLevel (ih levels') eq_leaf_of_resolvePlainWithin

/-- **The shortcuts change nothing on the wire.** Where a type resolves with and without them, the
two codecs write every value to the same bytes, or both fail; they read every input to the same
value with the same rest, or both fail; and they have the same sizes. -/
theorem sameFormat_of_resolvePlainly {node : TypeNode} {ctx : ResolveContext}
    {manifest plain : Manifest} (h : resolver.resolve node ctx = .ok manifest)
    (hplain : resolver.resolvePlainly node ctx = .ok plain) :
    (∀ value bytes, manifest.codec.encode value = .ok bytes ↔
      plain.codec.encode value = .ok bytes) ∧
    (∀ input value rest, manifest.codec.read input = (.ok value, rest) ↔
      plain.codec.read input = (.ok value, rest)) ∧
    manifest.codec.fixedSize? = plain.codec.fixedSize? ∧
    manifest.codec.maxSize? = plain.codec.maxSize? := by
  obtain ⟨hformat, -⟩ := related_resolvePlainWithin _ _ node ctx ctx manifest plain h hplain
  refine ⟨fun value bytes => ?_, hformat.wire.reads, hformat.wire.size, hformat.maxSize⟩
  rw [Codec.encode_eq_ok_iff, Codec.encode_eq_ok_iff]
  exact hformat.wire.writes value bytes

/-- A struct with a typed list that may be absent, a text of eight bytes and bytes behind their
number. -/
def parcel : TypeNode := .struct [
  .plain "marks" (.option (.array (.number ⟨.u16, .little⟩) (.fixed 3)) ⟨.u8, .little⟩ true),
  .plain "label" (.fixedSize (.string .utf8) 8),
  .plain "note" (.sizePrefix .bytes ⟨.i16, .little⟩)]

/-- With and without shortcuts the fields of a parcel have other codecs, which write the same. -/
theorem sameFormat_of_resolvePlainly_parcel : ∃ manifest plain,
    resolve ⟨.empty, "shop"⟩ parcel (.root "Parcel" .type) = .ok manifest ∧
    resolvePlainly ⟨.empty, "shop"⟩ parcel (.root "Parcel" .type) = .ok plain ∧
    manifest.codec = .struct "Parcel" [
      ⟨"marks", .option (.typedArray (.number .u16) 3) .u8 true⟩,
      ⟨"label", .string (.fixed 8)⟩,
      ⟨"note", .bytes (.prefixed .i16)⟩] ∧
    plain.codec = .struct "Parcel" [
      ⟨"marks", .option (.list (.number .u16) (.fixed 3)) .u8 true⟩,
      ⟨"label", .fixedSize (.string .remainder) 8⟩,
      ⟨"note", .sizePrefixed (.bytes .remainder) .i16⟩] ∧
    ∀ value bytes, manifest.codec.encode value = .ok bytes ↔
      plain.codec.encode value = .ok bytes := by
  obtain ⟨hencode, -⟩ := @sameFormat_of_resolvePlainly ⟨.empty, "shop"⟩ parcel
    (.root "Parcel" .type) _ _ rfl rfl
  exact ⟨_, _, rfl, rfl, rfl, rfl, hencode⟩

end Resolver

end DartClient
