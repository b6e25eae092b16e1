import DartClient.Proofs.Manifest.Layout
import DartClient.Proofs.Manifest.LengthMark
import DartClient.Proofs.Text.Words

/-!
# The types of options

The type of an option is that of its item with a question mark, which goes in front of the first
length mark. The induction below follows how the types of nested types are put together from plain
text and marks. It shows that the question mark stands at the end, apart from marks, exactly if
the item has no typed list inside it or is one, below any number of options and sizes. If the item
is a list, a set, a map or a tuple with a typed list inside it, the question mark goes to the typed
list.

## Main definitions

* `Idl.TypeNode.showsLength`, `Idl.TypeNode.endsInLength`: where the marks of a type are.
* `Idl.TypeNode.Spells`: a type is put together from pieces that have marks in these places.

## Main results

* `Resolver.spelled_of_resolveWithin`: every type is put together in this way.
* `Resolver.targetType_option`: when the type of an option is that of its item and a question mark.
-/

namespace DartClient

open Idl (TypeNode NumberFormat NumberType Count BytesEncoding)
open Piece (textOf plainTextOf behind nullable enclosed isMark)

namespace Idl.TypeNode

/-! ## Marks in the text of a type -/

mutual

/-- Whether the text of a type has the mark of a typed list anywhere. -/
def showsLength : TypeNode → Bool
  | .array item (.fixed _) => (typedItem? item).isSome || item.showsLength
  | .array item _ | .option item _ _ | .set item _ => item.showsLength
  | .fixedSize inner _ | .sizePrefix inner _ => inner.showsLength
  | .map key value _ => key.showsLength || value.showsLength
  | .tuple items => itemsShowLength items
  | _ => false

/-- Whether the text of one of the items has the mark of a typed list. -/
def itemsShowLength : List TypeNode → Bool
  | [] => false
  | item :: items => item.showsLength || itemsShowLength items

end

/-- Whether the text of a type ends in the mark of a typed list, apart from question marks. -/
def endsInLength : TypeNode → Bool
  | .array item (.fixed _) => (typedItem? item).isSome
  | .option inner _ _ | .fixedSize inner _ | .sizePrefix inner _ => inner.endsInLength
  | _ => false

/-- The pieces have marks if the type has, and nothing but question marks behind the first one if
the type ends in it. -/
structure Spells (node : TypeNode) (pieces : List Piece) : Prop where
  /-- There is a mark if the type has one. -/
  marks : pieces.any isMark = node.showsLength
  /-- Only question marks are behind the first mark if the type ends in it. -/
  ends : (∀ c ∈ plainTextOf (behind pieces), c = '?') ↔
    (node.showsLength = true → node.endsInLength = true)

/-- A text is put together from pieces that have marks where the type has. -/
def IsSpelled (node : TypeNode) (text : String) : Prop :=
  ∃ pieces, text.toList = textOf pieces ∧ node.Spells pieces

variable {node item : TypeNode} {pieces : List Piece} {text : String}

/-- A type with a plain text. -/
theorem isSpelled_plain (hshows : node.showsLength = false) (hslash : '/' ∉ text.toList) :
    node.IsSpelled text := by
  refine ⟨[.plain text.toList hslash], (List.append_nil _).symm, hshows.symm, ?_⟩
  simp [behind, plainTextOf, hshows]

/-- A type whose marks are where those of another one are. -/
theorem Spells.congr (h : item.Spells pieces) (hshows : node.showsLength = item.showsLength)
    (hends : node.endsInLength = item.endsInLength) : node.Spells pieces := by
  refine ⟨h.marks.trans hshows.symm, ?_⟩
  rw [hshows, hends]
  exact h.ends

/-- The question mark of an option leaves the marks where they are. -/
theorem Spells.nullable (h : item.Spells pieces) : item.Spells (nullable pieces) := by
  refine ⟨(Piece.any_isMark_nullable pieces).trans h.marks, ?_⟩
  rw [Piece.behind_nullable]
  exact h.ends

/-- Behind a mark inside of lists, sets, maps and tuples stands at least their end. -/
theorem spells_enclosed {opening closing : List Char} {hopening : '/' ∉ opening}
    {hclosing : '/' ∉ closing} {rows : List (List Piece)}
    (hshows : node.showsLength = rows.any (·.any isMark)) (hends : node.endsInLength = false)
    (hend : ∃ c ∈ closing, c ≠ '?') :
    node.Spells (enclosed opening closing hopening hclosing rows) := by
  refine ⟨(Piece.any_isMark_enclosed rows).trans hshows.symm, ?_⟩
  obtain ⟨front, hbehind⟩ := Piece.behind_enclosed hopening hclosing rows
  rw [hbehind, ← hshows, hends]
  cases node.showsLength with
  | false => simp [plainTextOf]
  | true =>
    obtain ⟨c, hmem, hne⟩ := hend
    refine iff_of_false (fun hall => hne (hall c ?_)) (by simp)
    simp [plainTextOf, Piece.plainText, hmem]

/-- A text that is one part between two others, with marks where the part has them. -/
theorem isSpelled_around {opening closing : String} {inner : String}
    (h : item.IsSpelled inner) (hshows : node.showsLength = item.showsLength)
    (hends : node.endsInLength = false) (hopening : '/' ∉ opening.toList)
    (hclosing : '/' ∉ closing.toList) (hend : ∃ c ∈ closing.toList, c ≠ '?') :
    node.IsSpelled (opening ++ inner ++ closing) := by
  obtain ⟨pieces, hpieces, hspells⟩ := h
  refine ⟨enclosed opening.toList closing.toList hopening hclosing [pieces], ?_, ?_⟩
  · rw [Piece.textOf_enclosed, String.toList_append, String.toList_append, hpieces]
    simp [List.intercalate_singleton]
  · exact spells_enclosed (by simp [hshows, hspells.marks]) hends hend

theorem isSpelled_map {key value : TypeNode} {count : Count} {keyText valueText : String}
    (hkey : key.IsSpelled keyText) (hvalue : value.IsSpelled valueText) :
    (TypeNode.map key value count).IsSpelled
      ("Map<" ++ keyText ++ ", " ++ valueText ++ ">") := by
  obtain ⟨keyPieces, hkeyPieces, hkey⟩ := hkey
  obtain ⟨valuePieces, hvaluePieces, hvalue⟩ := hvalue
  refine ⟨enclosed "Map<".toList ">".toList (by decide) (by decide) [keyPieces, valuePieces],
    ?_, ?_⟩
  · rw [Piece.textOf_enclosed]
    simp [String.toList_append, hkeyPieces, hvaluePieces, List.intercalate_cons_cons,
      List.intercalate_singleton]
  · exact spells_enclosed (by simp [showsLength, hkey.marks, hvalue.marks]) rfl
      ⟨'>', by decide, by decide⟩

theorem exists_rows_of_isSpelled {items : List TypeNode} {texts : List String}
    (h : List.Forall₂ IsSpelled items texts) : ∃ rows : List (List Piece),
      texts.map String.toList = rows.map textOf ∧
        itemsShowLength items = rows.any (·.any isMark) := by
  induction h with
  | nil => exact ⟨[], rfl, rfl⟩
  | cons hhead _ ih =>
    obtain ⟨pieces, hpieces, hspells⟩ := hhead
    obtain ⟨rows, hrows, hshows⟩ := ih
    refine ⟨pieces :: rows, ?_, ?_⟩
    · rw [List.map_cons, List.map_cons, hpieces, hrows]
    · rw [itemsShowLength, List.any_cons, hspells.marks, hshows]

theorem isSpelled_tuple {items : List TypeNode} {texts : List String}
    (h : List.Forall₂ IsSpelled items texts) :
    (TypeNode.tuple items).IsSpelled (tupleType texts) := by
  obtain ⟨rows, hrows, hshows⟩ := exists_rows_of_isSpelled h
  -- The tuple of one item has a comma behind it.
  have hclosing : ∃ closing : String, '/' ∉ closing.toList ∧ (∃ c ∈ closing.toList, c ≠ '?') ∧
      tupleType texts = "(" ++ ", ".intercalate texts ++ closing := by
    unfold tupleType
    split
    · exact ⟨",)", by decide, ⟨')', by decide, by decide⟩,
        by rw [String.intercalate_singleton]⟩
    · exact ⟨")", by decide, ⟨')', by decide, by decide⟩, rfl⟩
  obtain ⟨closing, hslash, hend, htext⟩ := hclosing
  refine ⟨enclosed "(".toList closing.toList (by decide) hslash rows, ?_,
    spells_enclosed hshows rfl hend⟩
  rw [htext, Piece.textOf_enclosed, String.toList_append, String.toList_append,
    String.toList_intercalate, hrows]
  rfl

end Idl.TypeNode

/-! ## The texts of resolved types -/

/-- The name of a class made of the type has no slash. -/
def ResolveContext.HasPlainName (ctx : ResolveContext) : Prop :=
  ∀ name, ctx.parentName = some name → '/' ∉ name.toList

theorem slash_not_mem_className (name : String) : '/' ∉ (className name).toList :=
  Text.not_mem_upperCamel (by decide) (by decide) (by decide)

namespace ResolveContext

variable {ctx : ResolveContext}

theorem HasPlainName.typeName (h : ctx.HasPlainName) {fallback : String}
    (hfallback : '/' ∉ fallback.toList) : '/' ∉ (ctx.typeName fallback).toList := by
  unfold ResolveContext.typeName
  cases hname : ctx.parentName with
  | none => exact hfallback
  | some name => exact h name hname

theorem HasPlainName.item (h : ctx.HasPlainName) : ctx.item.HasPlainName := h

/-- Every context that the pages begin with has a name without a slash. -/
theorem hasPlainName_root (name : String) (naming : FieldNaming) :
    (ResolveContext.root (className name) naming).HasPlainName := by
  intro name' hname
  obtain rfl := Option.some.inj hname
  exact slash_not_mem_className name

end ResolveContext

namespace Resolver

variable {resolver : Resolver} {child : ResolveChild} {ctx : ResolveContext} {manifest : Manifest}

/-- The level below puts the texts of types together from pieces. -/
def ChildSpells (child : ResolveChild) : Prop :=
  ∀ {node ctx manifest}, ctx.HasPlainName → child node ctx = .ok manifest →
    node.IsSpelled manifest.targetType

theorem slash_not_mem_typedList {item : TypeNode} {list : String} {format : NumberFormat}
    (h : typedItem? item = some (list, format)) : '/' ∉ list.toList := by
  have hlist := typedList?_of_typedItem? h
  cases format <;> cases hlist <;> decide

/-- The text of a typed list ends in its mark. -/
theorem isSpelled_typedList {item : TypeNode} {list : String} {format : NumberFormat} {size : Nat}
    (htyped : typedItem? item = some (list, format)) :
    (TypeNode.array item (.fixed size)).IsSpelled
      (list ++ " /* length: " ++ toString size ++ " */") := by
  have hspells : (TypeNode.array item (.fixed size)).Spells
      [.plain list.toList (slash_not_mem_typedList htyped), .mark size] := by
    constructor
    · simp [TypeNode.showsLength, htyped, isMark]
    · simp [TypeNode.showsLength, TypeNode.endsInLength, htyped, behind, plainTextOf]
  refine ⟨_, ?_, hspells⟩
  rw [Piece.toList_typedList, Piece.textOf, List.flatMap_cons, List.flatMap_singleton]
  rfl

/-- The text of a list has marks where that of its item has. -/
theorem isSpelled_array {item : TypeNode} {count : Count} {text : String}
    (huntyped : ∀ size, count = .fixed size → typedItem? item = none) (h : item.IsSpelled text) :
    (TypeNode.array item count).IsSpelled ("List<" ++ text ++ ">") := by
  refine TypeNode.isSpelled_around h ?_ ?_ (by decide) (by decide) ⟨'>', by decide, by decide⟩
  all_goals
    cases count with
    | fixed size => simp [TypeNode.showsLength, TypeNode.endsInLength, huntyped size rfl]
    | prefixed width => rfl
    | remainder => rfl

theorem slash_not_mem_numberType (format : NumberFormat) :
    '/' ∉ (numberType format).toList := by
  cases format <;> decide

/-- The text of a type stays when a size is put around it. -/
theorem isSpelled_sized {node inner : TypeNode} {text : String} (h : inner.IsSpelled text)
    (hsized : node.showsLength = inner.showsLength ∧ node.endsInLength = inner.endsInLength) :
    node.IsSpelled text := by
  obtain ⟨pieces, hpieces, hspells⟩ := h
  exact ⟨pieces, hpieces, hspells.congr hsized.1 hsized.2⟩

theorem isSpelled_option {item : TypeNode} {flag : NumberType} {isFixed : Bool} {text : String}
    (h : item.IsSpelled text) :
    (TypeNode.option item flag isFixed).IsSpelled (nullableType text) := by
  obtain ⟨pieces, hpieces, hspells⟩ := h
  refine ⟨nullable pieces, ?_, hspells.nullable.congr ?_ ?_⟩
  · rw [toList_nullableType, hpieces, Piece.nullableText_textOf]
  · rw [TypeNode.showsLength]
  · rfl

/-- A link is spelled as the name of a class, whatever it refers to. -/
theorem targetType_of_link {name : String} {program : Option String}
    (h : resolver.linkManifest child ctx name program = .ok manifest) :
    manifest.targetType = className name := by
  unfold linkManifest at h
  split at h
  · cases h
  · simp only at h
    split at h
    · obtain rfl := Except.ok.inj h
      rfl
    · obtain rfl := Except.ok.inj h
      rfl
    · obtain ⟨inner, -, h⟩ := Resolved.bind_eq_ok_iff.mp h
      obtain rfl := Except.ok.inj h
      rfl

theorem targetType_classManifest {name : String} {codec : Codec} {shape : Shape}
    {children : List Manifest} :
    (classManifest ctx name codec shape children).targetType = name := by
  obtain ⟨_, _, _, hneeds⟩ := Manifest.exists_foldl_absorb_eq children (.leaf name codec)
  unfold classManifest
  simp only [hneeds]
  split
  · obtain ⟨_, hdeclare⟩ := Manifest.exists_declare_eq _ ⟨name, shape⟩
    rw [hdeclare]
    rfl
  · rfl

/-- **One level of the resolver** puts texts together from pieces if the levels below do. -/
theorem isSpelled_of_resolveLevel (hchild : ChildSpells child) (hname : ctx.HasPlainName)
    {node : TypeNode} (h : resolver.resolveLevel child node ctx = .ok manifest) :
    node.IsSpelled manifest.targetType := by
  have hplain {node : TypeNode} {text : String} (hshows : node.showsLength = false)
      (hslash : '/' ∉ text.toList) : node.IsSpelled text := TypeNode.isSpelled_plain hshows hslash
  -- A spelling without a slash is one piece, for it has no length mark.
  have hbool : '/' ∉ "bool".toList := by decide
  have hstring : '/' ∉ "String".toList := by decide
  have hbytes : '/' ∉ "Uint8List".toList := by decide
  have haddress : '/' ∉ "Ed25519HDPublicKey".toList := by decide
  have hobject : '/' ∉ "Object".toList := by decide
  cases makes_of_resolveLevel h with
  | number format | amount format | solAmount format | dateTime format =>
    exact hplain (by simp [TypeNode.showsLength]) (slash_not_mem_numberType format)
  | boolean => exact hplain (by simp [TypeNode.showsLength]) hbool
  | string | fixedText | prefixedText => exact hplain (by simp [TypeNode.showsLength]) hstring
  | bytes | fixedBytes | prefixedBytes => exact hplain (by simp [TypeNode.showsLength]) hbytes
  | publicKey => exact hplain (by simp [TypeNode.showsLength]) haddress
  | unknown => exact hplain (by simp [TypeNode.showsLength]) hobject
  | typedList htyped size => exact isSpelled_typedList htyped
  | array _ huntyped hinner => exact isSpelled_array huntyped (hchild hname.item hinner)
  | option flag isFixed hinner => exact isSpelled_option (hchild hname.item hinner)
  | set _ hinner =>
    exact TypeNode.isSpelled_around (hchild hname.item hinner) (by rw [TypeNode.showsLength]) rfl
      (by decide) (by decide) ⟨'>', by decide, by decide⟩
  | map _ hkey hvalue =>
    exact TypeNode.isSpelled_map (hchild hname.item hkey) (hchild hname.item hvalue)
  | tuple hchildren =>
    refine TypeNode.isSpelled_tuple (List.forall₂_map_right_iff.mpr ?_)
    exact hchildren.imp fun _ _ => hchild hname.item
  | @fixedSize item inner _ _ _ hinner | @sizePrefix item inner _ _ _ hinner =>
    have hspelled : item.IsSpelled inner.targetType := hchild hname.item hinner
    exact isSpelled_sized hspelled ⟨by rw [TypeNode.showsLength], rfl⟩
  | link h =>
    rw [targetType_of_link h]
    exact hplain (by simp [TypeNode.showsLength]) (slash_not_mem_className _)
  | struct h =>
    obtain ⟨resolved, -, h⟩ := Resolved.bind_eq_ok_iff.mp h
    obtain rfl := Except.ok.inj h
    rw [targetType_classManifest]
    exact hplain (by simp [TypeNode.showsLength]) (hname.typeName (by decide))
  | enum h =>
    obtain ⟨format, -, h⟩ := Resolved.bind_eq_ok_iff.mp h
    obtain ⟨resolved, -, h⟩ := Resolved.bind_eq_ok_iff.mp h
    obtain rfl := Except.ok.inj h
    rw [targetType_classManifest]
    exact hplain (by simp [TypeNode.showsLength]) (hname.typeName (by decide))

/-- **Every type is put together from pieces** with marks where the type has them. -/
theorem spelled_of_resolveWithin (resolver : Resolver) (levels : Nat) :
    ChildSpells (resolver.resolveWithin levels) := by
  -- The induction is on the number of levels that are left.
  induction levels with
  | zero =>
    intro node ctx manifest _ h
    cases h
  | succ levels ih =>
    intro node ctx manifest hname h
    exact isSpelled_of_resolveLevel ih hname h

theorem isSpelled_of_resolve {node : TypeNode} (hname : ctx.HasPlainName)
    (h : resolver.resolve node ctx = .ok manifest) : node.IsSpelled manifest.targetType :=
  resolver.spelled_of_resolveWithin (levelsBelow ctx.depth) hname h

/-! ## Options -/

/-- An option is resolved to the nullable form of what its item is resolved to. -/
theorem exists_item_of_resolve_option {item : TypeNode} {flag : NumberType} {isFixed : Bool}
    (h : resolver.resolve (.option item flag isFixed) ctx = .ok manifest) :
    ∃ inner, resolver.resolve item ctx.item = .ok inner ∧
      manifest.targetType = nullableType inner.targetType := by
  unfold resolve at h
  cases hlevels : levelsBelow ctx.depth with
  | zero =>
    rw [hlevels] at h
    cases h
  | succ levels =>
    rw [hlevels, resolveWithin] at h
    -- The item stands one level deeper, and one level less is left for it.
    have hbelow : levelsBelow ctx.item.depth = levels := by
      have hitem : ctx.item.depth = ctx.depth + 1 := rfl
      unfold levelsBelow at hlevels ⊢
      omega
    cases makes_of_resolveLevel h with
    | @option _ inner _ _ hinner =>
      refine ⟨inner, ?_, rfl⟩
      rw [resolve, hbelow]
      exact hinner

/-- **The type of an option.** Without marks, it is the type of the item and a question mark exactly
if only question marks stand behind the first mark in the type of the item. In a context whose name
has no slash, that is the case exactly if the item has no typed list inside it or is one, below any
number of options and sizes. -/
theorem targetType_option {item : TypeNode} {flag : NumberType} {isFixed : Bool}
    (h : resolver.resolve (.option item flag isFixed) ctx = .ok manifest) :
    ∃ inner, resolver.resolve item ctx.item = .ok inner ∧
      (unmarked manifest.targetType.toList = unmarked inner.targetType.toList ++ ['?'] ↔
        ∀ c ∈ behindMark inner.targetType.toList, c = '?') ∧
      (ctx.HasPlainName →
        (unmarked manifest.targetType.toList = unmarked inner.targetType.toList ++ ['?'] ↔
          (item.showsLength = true → item.endsInLength = true))) := by
  obtain ⟨inner, hinner, htarget⟩ := exists_item_of_resolve_option h
  have hmark := unmarked_nullableText_iff inner.targetType.toList
  rw [← toList_nullableType, ← htarget] at hmark
  refine ⟨inner, hinner, hmark, fun hname => ?_⟩
  obtain ⟨pieces, hpieces, hspells⟩ := isSpelled_of_resolve hname.item hinner
  rw [hmark, hpieces, Piece.behindMark_textOf, hspells.ends]

/-- Four bytes in a typed list. -/
def fourBytes : TypeNode := .array (.number ⟨.u8, .little⟩) (.fixed 4)

/-- The context of a defined type called box. -/
def boxContext : ResolveContext := .root (className "box") .type

/-- A typed list that may be absent has its question mark in front of its length. -/
theorem targetType_option_fourBytes : ∃ inner manifest,
    resolve ⟨.empty, "shop"⟩ fourBytes boxContext.item = .ok inner ∧
    resolve ⟨.empty, "shop"⟩ (.option fourBytes ⟨.u8, .little⟩ false) boxContext = .ok manifest ∧
    manifest.targetType = "Uint8List? /* length: 4 */" ∧
    unmarked manifest.targetType.toList = unmarked inner.targetType.toList ++ ['?'] := by
  have hmanifest : ∃ manifest,
      resolve ⟨.empty, "shop"⟩ (.option fourBytes ⟨.u8, .little⟩ false) boxContext = .ok manifest ∧
      manifest.targetType = "Uint8List? /* length: 4 */" := ⟨_, rfl, by decide⟩
  obtain ⟨manifest, hmanifest, htarget⟩ := hmanifest
  obtain ⟨inner, hinner, -, hnodes⟩ := targetType_option hmanifest
  have hmark := hnodes (ResolveContext.hasPlainName_root "box" .type)
  exact ⟨inner, manifest, hinner, hmanifest, htarget, hmark.mpr fun _ => rfl⟩

/-- In a list of typed lists that may be absent, the typed lists may be absent instead. -/
theorem targetType_option_listOfFourBytes : ∃ inner manifest,
    resolve ⟨.empty, "shop"⟩ (.array fourBytes .borsh) boxContext.item = .ok inner ∧
    resolve ⟨.empty, "shop"⟩ (.option (.array fourBytes .borsh) ⟨.u8, .little⟩ false) boxContext =
      .ok manifest ∧
    unmarked manifest.targetType.toList = "List<Uint8List?>".toList ∧
    unmarked inner.targetType.toList = "List<Uint8List>".toList ∧
    unmarked manifest.targetType.toList ≠ unmarked inner.targetType.toList ++ ['?'] := by
  refine ⟨_, _, rfl, rfl, ?_, ?_, ?_⟩
  · decide +kernel
  · decide +kernel
  · decide +kernel

end Resolver

end DartClient
