import Mathlib.Data.List.Forall2
import DartClient.Manifest.Resolve

/-!
# One level of the resolver

What the resolver makes of a type, given what the level below makes of the types inside it. It is
told here once, for every kind of type, with everything that was checked on the way; whatever holds
of all levels follows by cases on it.

Classes in place and links are only named here: what is made of them is told by the functions that
make it.

## Main definitions

* `Resolver.Makes`: what one level makes of a type.

## Main results

* `Resolver.makes_of_resolveLevel`: one level makes nothing else.
-/

namespace DartClient

open Idl (TypeNode StructField EnumVariant NumberType NumberFormat Count BytesEncoding)

/-- How a number of items is stored, if its number is little endian. -/
def lengthOf? : Count → Option Length
  | .fixed value => some (.fixed value)
  | .prefixed ⟨format, .little⟩ => some (.prefixed format)
  | .prefixed ⟨_, .big⟩ => none
  | .remainder => some .remainder

/-! ## Steps that may be refused -/

/-- A sequence of resolving steps succeeds if both of them do. -/
theorem Resolved.bind_eq_ok_iff {α β : Type} {step : Resolved α} {next : α → Resolved β} {b : β} :
    step >>= next = .ok b ↔ ∃ a, step = .ok a ∧ next a = .ok b := by
  cases step with
  | error error =>
    constructor
    · intro h
      cases h
    · rintro ⟨a, h, -⟩
      cases h
  | ok a =>
    constructor
    · intro h
      exact ⟨a, rfl, h⟩
    · rintro ⟨a', h, hnext⟩
      obtain rfl := Except.ok.inj h
      exact hnext

/-- Resolving the members of a list succeeds if each of them is resolved. -/
theorem Resolved.mapM_eq_ok_iff {α β : Type} {step : α → Resolved β} {items : List α} :
    ∀ {results : List β}, items.mapM step = .ok results ↔
      List.Forall₂ (fun item result => step item = .ok result) items results := by
  induction items with
  | nil =>
    intro results
    rw [List.mapM_nil]
    constructor
    · intro h
      obtain rfl := Except.ok.inj h
      exact .nil
    · intro h
      cases h
      rfl
  | cons item items ih =>
    intro results
    rw [List.mapM_cons, bind_eq_ok_iff]
    constructor
    · rintro ⟨head, hhead, h⟩
      obtain ⟨tail, htail, h⟩ := bind_eq_ok_iff.mp h
      obtain rfl := Except.ok.inj h
      exact .cons hhead (ih.mp htail)
    · intro h
      cases h with
      | cons hhead htail =>
        exact ⟨_, hhead, bind_eq_ok_iff.mpr ⟨_, ih.mpr htail, rfl⟩⟩

theorem littleEndianFormat_eq_ok_iff {number : NumberType} {kind : String} {ctx : ResolveContext}
    {format : NumberFormat} :
    littleEndianFormat number kind ctx = .ok format ↔ number = ⟨format, .little⟩ := by
  obtain ⟨format', endian⟩ := number
  cases endian <;> simp [littleEndianFormat, refuse]

theorem countLength_eq_ok_iff {count : Count} {kind : String} {ctx : ResolveContext}
    {length : Length} :
    countLength count kind ctx = .ok length ↔ lengthOf? count = some length := by
  cases count with
  | fixed value => simp [countLength, lengthOf?]
  | remainder => simp [countLength, lengthOf?]
  | prefixed width =>
    obtain ⟨format, endian⟩ := width
    cases endian <;> simp [countLength, lengthOf?, littleEndianFormat, refuse, Except.map]

/-! ## Typed lists -/

/-- The item of a typed list is a plain number. -/
theorem eq_number_of_typedItem? {item : TypeNode} {list : String} {format : NumberFormat}
    (h : typedItem? item = some (list, format)) : item = .number ⟨format, .little⟩ := by
  obtain ⟨format', hplain, h⟩ := Option.bind_eq_some_iff.mp h
  obtain ⟨list', -, h⟩ := Option.bind_eq_some_iff.mp h
  obtain ⟨-, rfl⟩ := Prod.mk.inj (Option.some.inj h)
  unfold TypeNode.plainNumber? at hplain
  split at hplain
  · obtain rfl := Option.some.inj hplain
    rfl
  · cases hplain

/-- The typed list is the one for the format. -/
theorem typedList?_of_typedItem? {item : TypeNode} {list : String} {format : NumberFormat}
    (h : typedItem? item = some (list, format)) : typedList? format = some list := by
  obtain ⟨format', -, h⟩ := Option.bind_eq_some_iff.mp h
  obtain ⟨list', hlist, h⟩ := Option.bind_eq_some_iff.mp h
  obtain ⟨rfl, rfl⟩ := Prod.mk.inj (Option.some.inj h)
  exact hlist

theorem eq_fixed_of_lengthOf? {count : Count} {size : Nat}
    (h : lengthOf? count = some (.fixed size)) : count = .fixed size := by
  unfold lengthOf? at h
  split at h <;> simp_all

/-! ## What one level makes -/

/-- The type of a number. -/
def numberType (format : NumberFormat) : String :=
  if format.isFloat then "double" else if format.isWideInteger then "BigInt" else "int"

namespace Resolver

variable {resolver : Resolver} {child : ResolveChild} {ctx : ResolveContext} {manifest : Manifest}

/-- What one level makes of a type, given what the level below makes of the types inside. -/
inductive Makes (resolver : Resolver) (child : ResolveChild) (ctx : ResolveContext) :
    TypeNode → Manifest → Prop
  | number (format : NumberFormat) : Makes resolver child ctx (.number ⟨format, .little⟩)
      (.leaf (numberType format) (.number format))
  | amount (format : NumberFormat) : Makes resolver child ctx (.amount ⟨format, .little⟩)
      (.leaf (numberType format) (.number format))
  | solAmount (format : NumberFormat) : Makes resolver child ctx (.solAmount ⟨format, .little⟩)
      (.leaf (numberType format) (.number format))
  | dateTime (format : NumberFormat) : Makes resolver child ctx (.dateTime ⟨format, .little⟩)
      (.leaf (numberType format) (.number format))
  | boolean (format : NumberFormat) : Makes resolver child ctx (.boolean ⟨format, .little⟩)
      (.leaf "bool" (.boolean format))
  | string : Makes resolver child ctx (.string .utf8) (.leaf "String" (.string .borsh))
  | bytes : Makes resolver child ctx .bytes (bytesManifest .remainder)
  | publicKey : Makes resolver child ctx .publicKey
      ((Manifest.leaf "Ed25519HDPublicKey" .publicKey).withImport solanaModule
        ["Ed25519HDPublicKey"])
  /-- A fixed number of plain numbers is not resolved any further. -/
  | typedList {item : TypeNode} {list : String} {format : NumberFormat}
      (htyped : typedItem? item = some (list, format)) (size : Nat) :
      Makes resolver child ctx (.array item (.fixed size)) (typedListManifest list format size)
  | array {item : TypeNode} {count : Count} {length : Length} {inner : Manifest}
      (hcount : lengthOf? count = some length)
      (huntyped : ∀ size, count = .fixed size → typedItem? item = none)
      (hinner : child item ctx.item = .ok inner) : Makes resolver child ctx (.array item count)
        (inner.wrap ("List<" ++ inner.targetType ++ ">") (.list inner.codec length))
  | option {item : TypeNode} {inner : Manifest} (flag : NumberFormat) (isFixed : Bool)
      (hinner : child item ctx.item = .ok inner) :
      Makes resolver child ctx (.option item ⟨flag, .little⟩ isFixed)
        (inner.wrap (nullableType inner.targetType) (.option inner.codec flag isFixed))
  | set {item : TypeNode} {count : Count} {length : Length} {inner : Manifest}
      (hcount : lengthOf? count = some length) (hinner : child item ctx.item = .ok inner) :
      Makes resolver child ctx (.set item count)
        (inner.wrap ("Set<" ++ inner.targetType ++ ">") (.set inner.codec length))
  | map {key value : TypeNode} {count : Count} {length : Length}
      {keyManifest valueManifest : Manifest} (hcount : lengthOf? count = some length)
      (hkey : child key ctx.item = .ok keyManifest)
      (hvalue : child value ctx.item = .ok valueManifest) :
      Makes resolver child ctx (.map key value count)
        ((keyManifest.absorb valueManifest).wrap
          ("Map<" ++ keyManifest.targetType ++ ", " ++ valueManifest.targetType ++ ">")
          (.map keyManifest.codec valueManifest.codec length))
  | tuple {items : List TypeNode} {children : List Manifest}
      (hchildren : List.Forall₂ (fun item manifest => child item ctx.item = .ok manifest)
        items children) :
      Makes resolver child ctx (.tuple items)
        ((children.foldl Manifest.absorb (.leaf "" (.tuple []))).wrap
          (tupleType (children.map (·.targetType))) (.tuple (children.map (·.codec))))
  /-- The size of a text or of bytes becomes its length. -/
  | fixedText (size : Nat) : Makes resolver child ctx (.fixedSize (.string .utf8) size)
      (.leaf "String" (.string (.fixed size)))
  | fixedBytes (size : Nat) :
      Makes resolver child ctx (.fixedSize .bytes size) (bytesManifest (.fixed size))
  | fixedSize {node : TypeNode} {inner : Manifest} (size : Nat)
      (htext : ∀ encoding, node ≠ .string encoding) (hbytes : node ≠ .bytes)
      (hinner : child node ctx.item = .ok inner) : Makes resolver child ctx (.fixedSize node size)
        (wrapKeepingShape inner (.fixedSize inner.codec size))
  | prefixedText (width : NumberFormat) :
      Makes resolver child ctx (.sizePrefix (.string .utf8) ⟨width, .little⟩)
        (.leaf "String" (.string (.prefixed width)))
  | prefixedBytes (width : NumberFormat) :
      Makes resolver child ctx (.sizePrefix .bytes ⟨width, .little⟩)
        (bytesManifest (.prefixed width))
  | sizePrefix {node : TypeNode} {inner : Manifest} (width : NumberFormat)
      (htext : ∀ encoding, node ≠ .string encoding) (hbytes : node ≠ .bytes)
      (hinner : child node ctx.item = .ok inner) :
      Makes resolver child ctx (.sizePrefix node ⟨width, .little⟩)
        (wrapKeepingShape inner (.sizePrefixed inner.codec width))
  | link {name : String} {program : Option String} {manifest : Manifest}
      (h : resolver.linkManifest child ctx name program = .ok manifest) :
      Makes resolver child ctx (.link name program) manifest
  | struct {fields : List StructField} {manifest : Manifest}
      (h : structManifest child ctx fields = .ok manifest) :
      Makes resolver child ctx (.struct fields) manifest
  | enum {variants : List EnumVariant} {size : NumberType} {manifest : Manifest}
      (h : enumManifest child ctx variants size = .ok manifest) :
      Makes resolver child ctx (.enum variants size) manifest
  | unknown : Makes resolver child ctx .unknown (unknownManifest TypeNode.unknown.kind ctx)

theorem eq_of_numberManifest {number : NumberType} {kind : String}
    (h : numberManifest number kind ctx = .ok manifest) :
    ∃ format, number = ⟨format, .little⟩ ∧
      manifest = .leaf (numberType format) (.number format) := by
  obtain ⟨format, hformat, h⟩ := Resolved.bind_eq_ok_iff.mp h
  exact ⟨format, littleEndianFormat_eq_ok_iff.mp hformat, (Except.ok.inj h).symm⟩

theorem eq_of_stringManifest {encoding : BytesEncoding} {length : Length} {kind : String}
    (h : stringManifest encoding length kind ctx = .ok manifest) :
    encoding = .utf8 ∧ manifest = .leaf "String" (.string length) := by
  unfold stringManifest at h
  split at h
  case isTrue hutf8 => exact ⟨hutf8, (Except.ok.inj h).symm⟩
  case isFalse => cases h

/-- A type that is too deep is refused. -/
theorem not_tooDeep_of_resolveLevel {node : TypeNode}
    (h : resolver.resolveLevel child node ctx = .ok manifest) : ¬ maxTypeDepth < ctx.depth := by
  intro hdeep
  unfold resolveLevel at h
  rw [if_pos hdeep] at h
  cases h

/-- A size around a type that is neither a text nor bytes. -/
theorem resolveLevel_fixedSize {inner : TypeNode} {size : Nat}
    (htext : ∀ encoding, inner ≠ .string encoding) (hbytes : inner ≠ .bytes)
    (hdepth : ¬ maxTypeDepth < ctx.depth) :
    resolver.resolveLevel child (.fixedSize inner size) ctx = (do
      let inner ← child inner ctx.item
      return wrapKeepingShape inner (.fixedSize inner.codec size)) := by
  unfold resolveLevel
  rw [if_neg hdepth]
  cases inner
  case string encoding => exact absurd rfl (htext encoding)
  case bytes => exact absurd rfl hbytes
  all_goals rfl

/-- A size in front of a type that is neither a text nor bytes. -/
theorem resolveLevel_sizePrefix {inner : TypeNode} {width : NumberType}
    (htext : ∀ encoding, inner ≠ .string encoding) (hbytes : inner ≠ .bytes)
    (hdepth : ¬ maxTypeDepth < ctx.depth) :
    resolver.resolveLevel child (.sizePrefix inner width) ctx = (do
      let width ← littleEndianFormat width "sizePrefixTypeNode" ctx
      let inner ← child inner ctx.item
      return wrapKeepingShape inner (.sizePrefixed inner.codec width)) := by
  unfold resolveLevel
  rw [if_neg hdepth]
  cases inner
  case string encoding => exact absurd rfl (htext encoding)
  case bytes => exact absurd rfl hbytes
  all_goals rfl

theorem makes_of_array {item : TypeNode} {count : Count} (hdepth : ¬ maxTypeDepth < ctx.depth)
    (h : resolver.resolveLevel child (.array item count) ctx = .ok manifest) :
    resolver.Makes child ctx (.array item count) manifest := by
  unfold resolveLevel at h
  rw [if_neg hdepth] at h
  obtain ⟨length, hlength, h⟩ := Resolved.bind_eq_ok_iff.mp h
  have hcount := countLength_eq_ok_iff.mp hlength
  split at h
  case h_1 size list format htyped =>
    obtain rfl := Except.ok.inj h
    obtain rfl := eq_fixed_of_lengthOf? hcount
    exact .typedList htyped size
  case h_2 huntyped =>
    obtain ⟨inner, hinner, h⟩ := Resolved.bind_eq_ok_iff.mp h
    obtain rfl := Except.ok.inj h
    refine .array hcount ?_ hinner
    rintro size rfl
    obtain rfl := Option.some.inj hcount
    cases htyped : typedItem? item with
    | none => rfl
    | some typed => exact absurd htyped (huntyped size typed.1 typed.2 rfl)

theorem makes_of_fixedSize {inner : TypeNode} {size : Nat} (hdepth : ¬ maxTypeDepth < ctx.depth)
    (h : resolver.resolveLevel child (.fixedSize inner size) ctx = .ok manifest) :
    resolver.Makes child ctx (.fixedSize inner size) manifest := by
  by_cases htext : ∃ encoding, inner = .string encoding
  · obtain ⟨encoding, rfl⟩ := htext
    unfold resolveLevel at h
    rw [if_neg hdepth] at h
    obtain ⟨rfl, rfl⟩ := eq_of_stringManifest h
    exact .fixedText size
  · by_cases hbytes : inner = .bytes
    · subst hbytes
      unfold resolveLevel at h
      rw [if_neg hdepth] at h
      obtain rfl := Except.ok.inj h
      exact .fixedBytes size
    · have htext : ∀ encoding, inner ≠ .string encoding := fun encoding heq => htext ⟨encoding, heq⟩
      rw [resolveLevel_fixedSize htext hbytes hdepth] at h
      obtain ⟨manifest, hinner, h⟩ := Resolved.bind_eq_ok_iff.mp h
      obtain rfl := Except.ok.inj h
      exact .fixedSize size htext hbytes hinner

theorem makes_of_sizePrefix {inner : TypeNode} {width : NumberType}
    (hdepth : ¬ maxTypeDepth < ctx.depth)
    (h : resolver.resolveLevel child (.sizePrefix inner width) ctx = .ok manifest) :
    resolver.Makes child ctx (.sizePrefix inner width) manifest := by
  -- As for a size around the type, behind the format of the size.
  by_cases htext : ∃ encoding, inner = .string encoding
  · obtain ⟨encoding, rfl⟩ := htext
    unfold resolveLevel at h
    rw [if_neg hdepth] at h
    obtain ⟨format, hformat, h⟩ := Resolved.bind_eq_ok_iff.mp h
    obtain rfl := littleEndianFormat_eq_ok_iff.mp hformat
    obtain ⟨rfl, rfl⟩ := eq_of_stringManifest h
    exact .prefixedText format
  · by_cases hbytes : inner = .bytes
    · subst hbytes
      unfold resolveLevel at h
      rw [if_neg hdepth] at h
      obtain ⟨format, hformat, h⟩ := Resolved.bind_eq_ok_iff.mp h
      obtain rfl := littleEndianFormat_eq_ok_iff.mp hformat
      obtain rfl := Except.ok.inj h
      exact .prefixedBytes format
    · have htext : ∀ encoding, inner ≠ .string encoding := fun encoding heq => htext ⟨encoding, heq⟩
      rw [resolveLevel_sizePrefix htext hbytes hdepth] at h
      obtain ⟨format, hformat, hrest⟩ := Resolved.bind_eq_ok_iff.mp h
      obtain rfl := littleEndianFormat_eq_ok_iff.mp hformat
      obtain ⟨manifest, hinner, hresult⟩ := Resolved.bind_eq_ok_iff.mp hrest
      obtain rfl := Except.ok.inj hresult
      exact .sizePrefix format htext hbytes hinner

/-- **One level of the resolver makes nothing else.** -/
theorem makes_of_resolveLevel {node : TypeNode}
    (h : resolver.resolveLevel child node ctx = .ok manifest) :
    resolver.Makes child ctx node manifest := by
  have hdepth := not_tooDeep_of_resolveLevel h
  -- Lists and wrappers ask first what is inside of them, so they have lemmas of their own.
  cases node
  case array => exact makes_of_array hdepth h
  case fixedSize => exact makes_of_fixedSize hdepth h
  case sizePrefix => exact makes_of_sizePrefix hdepth h
  all_goals
    unfold resolveLevel at h
    rw [if_neg hdepth] at h
  case number =>
    obtain ⟨format, rfl, rfl⟩ := eq_of_numberManifest h
    exact .number format
  case amount =>
    obtain ⟨format, rfl, rfl⟩ := eq_of_numberManifest h
    exact .amount format
  case solAmount =>
    obtain ⟨format, rfl, rfl⟩ := eq_of_numberManifest h
    exact .solAmount format
  case dateTime =>
    obtain ⟨format, rfl, rfl⟩ := eq_of_numberManifest h
    exact .dateTime format
  case boolean =>
    obtain ⟨format, hformat, h⟩ := Resolved.bind_eq_ok_iff.mp h
    obtain rfl := littleEndianFormat_eq_ok_iff.mp hformat
    obtain rfl := Except.ok.inj h
    exact .boolean format
  case string =>
    obtain ⟨rfl, rfl⟩ := eq_of_stringManifest h
    exact .string
  case bytes =>
    obtain rfl := Except.ok.inj h
    exact .bytes
  case publicKey =>
    obtain rfl := Except.ok.inj h
    exact .publicKey
  case option item flag isFixed =>
    obtain ⟨format, hformat, hrest⟩ := Resolved.bind_eq_ok_iff.mp h
    obtain rfl := littleEndianFormat_eq_ok_iff.mp hformat
    obtain ⟨inner, hinner, hresult⟩ := Resolved.bind_eq_ok_iff.mp hrest
    obtain rfl := Except.ok.inj hresult
    exact .option format isFixed hinner
  case set item count =>
    obtain ⟨length, hlength, h⟩ := Resolved.bind_eq_ok_iff.mp h
    obtain ⟨inner, hinner, h⟩ := Resolved.bind_eq_ok_iff.mp h
    obtain rfl := Except.ok.inj h
    exact .set (countLength_eq_ok_iff.mp hlength) hinner
  case map key value count =>
    obtain ⟨length, hlength, h⟩ := Resolved.bind_eq_ok_iff.mp h
    obtain ⟨keyManifest, hkey, h⟩ := Resolved.bind_eq_ok_iff.mp h
    obtain ⟨valueManifest, hvalue, h⟩ := Resolved.bind_eq_ok_iff.mp h
    obtain rfl := Except.ok.inj h
    exact .map (countLength_eq_ok_iff.mp hlength) hkey hvalue
  case tuple items =>
    obtain ⟨children, hchildren, h⟩ := Resolved.bind_eq_ok_iff.mp h
    obtain rfl := Except.ok.inj h
    exact .tuple (Resolved.mapM_eq_ok_iff.mp hchildren)
  case link => exact .link h
  case struct => exact .struct h
  case enum => exact .enum h
  case altered => cases h
  case unknown =>
    obtain rfl := Except.ok.inj h
    exact .unknown

end Resolver

end DartClient
