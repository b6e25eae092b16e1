import DartClient.Codec.Annotation
import DartClient.Proofs.Codec.Sizes

/-!
# Parts without layout

A part of unknown kind has no layout, and what is said of a codec has to take notice of it wherever
it occurs. An expression spells out the codecs it is put together from, down to classes, which it
only names. So a part of unknown kind keeps a codec from being annotated if the expression comes
across it, or across a struct that has one anywhere inside. An enum is named without a look at its
variants, and that is the one place where a part of unknown kind is overlooked.

Sizes are different: but for a fixed size, which needs nothing to be known of what it holds, a codec
has a greatest size only if all of its parts have one.

## Main definitions

* `Codec.Reaches`: a codec occurs below codecs of a given sort.
* `Codec.Spells`: the expression of a codec comes across another one.

## Main results

* `Codec.annotation?_eq_none_iff`: which codecs are not annotated, and which parts of unknown kind
  are overlooked.
* `Codec.sizes_eq_none_of_reaches`: a part of unknown kind outside of fixed sizes leaves no size.
-/

namespace DartClient

namespace Codec

/-! ## Reaching a codec -/

/-- A codec occurs in another one, below codecs of the given sort only. -/
inductive Reaches (through : Codec → Prop) : Codec → Codec → Prop
  | here (codec : Codec) : Reaches through codec codec
  | inside {codec part inner : Codec} (hthrough : through codec) (hpart : part ∈ codec.parts)
      (h : Reaches through part inner) : Reaches through codec inner

variable {through : Codec → Prop} {codec inner : Codec}

theorem reaches_iff : codec.Reaches through inner ↔
    inner = codec ∨ through codec ∧ ∃ part ∈ codec.parts, part.Reaches through inner := by
  constructor
  · rintro (_ | ⟨hthrough, hpart, h⟩)
    · exact .inl rfl
    · exact .inr ⟨hthrough, _, hpart, h⟩
  · rintro (rfl | ⟨hthrough, part, hpart, h⟩)
    · exact .here _
    · exact .inside hthrough hpart h

/-- What is reached has a property if it is the codec itself or is reached from a part. -/
theorem exists_reaches_iff {P : Codec → Prop} : (∃ inner, codec.Reaches through inner ∧ P inner) ↔
    P codec ∨ through codec ∧
      ∃ part ∈ codec.parts, ∃ inner, part.Reaches through inner ∧ P inner := by
  constructor
  · rintro ⟨inner, hreaches, hinner⟩
    rcases reaches_iff.mp hreaches with rfl | ⟨hthrough, part, hpart, hreaches⟩
    · exact .inl hinner
    · exact .inr ⟨hthrough, part, hpart, inner, hreaches, hinner⟩
  · rintro (hown | ⟨hthrough, part, hpart, inner, hreaches, hinner⟩)
    · exact ⟨codec, .here _, hown⟩
    · exact ⟨inner, .inside hthrough hpart hreaches, hinner⟩

/-! ## Parts of unknown kind -/

/-- A codec of unknown kind. -/
def isUnknown : Codec → Bool
  | .unknown _ => true
  | _ => false

/-- A codec with a class of its own, which an expression names. -/
def isClass : Codec → Bool
  | .struct _ _ | .enum _ _ _ => true
  | _ => false

end Codec

theorem itemsContainUnknown_eq_any (items : List Codec) :
    itemsContainUnknown items = items.any Codec.containsUnknown := by
  induction items with
  | nil => rfl
  | cons item items ih => rw [itemsContainUnknown, ih, List.any_cons]

/-- The names of fields do not count. -/
theorem fieldsContainUnknown_eq_items : ∀ fields : List FieldCodec,
    fieldsContainUnknown fields = itemsContainUnknown (fields.map FieldCodec.codec)
  | [] => rfl
  | ⟨_, _⟩ :: fields => by
    rw [fieldsContainUnknown, fieldsContainUnknown_eq_items fields, List.map_cons,
      itemsContainUnknown]

theorem Payload.containsUnknown_eq_items (payload : Payload) :
    payload.containsUnknown = itemsContainUnknown payload.codecs := by
  cases payload with
  | empty | tuple => rfl
  | struct fields => exact fieldsContainUnknown_eq_items fields

theorem variantsContainUnknown_eq_items : ∀ variants : List VariantCodec,
    variantsContainUnknown variants =
      itemsContainUnknown (variants.flatMap fun variant => variant.payload.codecs)
  | [] => rfl
  | ⟨_, _, payload⟩ :: variants => by
    rw [variantsContainUnknown, variantsContainUnknown_eq_items variants,
      payload.containsUnknown_eq_items, List.flatMap_cons]
    simp only [itemsContainUnknown_eq_any, List.any_append]

namespace Codec

variable {codec : Codec}

/-- A codec contains a part of unknown kind if it is one or if one of its parts contains one. -/
theorem containsUnknown_eq (codec : Codec) :
    codec.containsUnknown = (codec.isUnknown || codec.parts.any containsUnknown) := by
  cases codec
  case struct name fields =>
    simp only [containsUnknown, isUnknown, parts, fieldsContainUnknown_eq_items,
      itemsContainUnknown_eq_any, Bool.false_or]
  case enum name size variants =>
    simp only [containsUnknown, isUnknown, parts, variantsContainUnknown_eq_items,
      itemsContainUnknown_eq_any, Bool.false_or]
  case tuple items =>
    simp only [containsUnknown, isUnknown, parts, itemsContainUnknown_eq_any, Bool.false_or]
  all_goals simp [containsUnknown, isUnknown, parts]

theorem containsUnknown_iff : codec.containsUnknown = true ↔
    codec.isUnknown = true ∨ ∃ part ∈ codec.parts, part.containsUnknown = true := by
  rw [containsUnknown_eq, Bool.or_eq_true, List.any_eq_true]

/-! ## Expressions -/

/-- The expression of a codec comes across another one: there is no class above it. -/
def Spells : Codec → Codec → Prop := Reaches fun codec => codec.isClass = false

theorem itemBorshTypes?_eq_none_iff : ∀ {items : List Codec},
    itemBorshTypes? items = none ↔ ∃ item ∈ items, item.borshType? = none
  | [] => by simp [itemBorshTypes?]
  | item :: items => by
    simp only [itemBorshTypes?, List.mem_cons, exists_eq_or_imp, ← itemBorshTypes?_eq_none_iff]
    cases item.borshType? <;> cases itemBorshTypes? items <;> simp

/-- **What a codec without a class needs for its expression** are the expressions of its parts. -/
theorem borshType?_eq_none_iff_of_isClass (hclass : codec.isClass = false) :
    codec.borshType? = none ↔
      codec.isUnknown = true ∨ ∃ part ∈ codec.parts, part.borshType? = none := by
  cases codec
  case struct | enum => cases hclass
  case boolean format => cases format <;> simp [borshType?, isUnknown, parts]
  case defined name kind => cases kind <;> simp [borshType?, isUnknown, parts]
  case tuple items =>
    simp only [borshType?, isUnknown, parts, Bool.false_eq_true, false_or,
      ← itemBorshTypes?_eq_none_iff]
    cases itemBorshTypes? items <;> simp
  case option item flag isFixed =>
    simp only [borshType?, isUnknown, parts, Bool.false_eq_true, false_or, List.mem_singleton,
      exists_eq_left]
    cases item.borshType? with
    | none => simp
    | some item => cases isFixed <;> by_cases hflag : flag = .u8 <;> simp [hflag]
  case map key val count =>
    cases hkey : key.borshType? <;> cases hval : val.borshType? <;>
      simp [borshType?, isUnknown, parts, hkey, hval]
  case list item _ | typedArray item _ | set item _ | sizePrefixed item _ | fixedSize item _ =>
    cases hitem : item.borshType? <;> simp [borshType?, isUnknown, parts, hitem]
  all_goals simp [borshType?, isUnknown, parts]

/-- A struct is refused for what is in it, at any depth. -/
theorem borshType?_struct_eq_none_iff {name : String} {fields : List FieldCodec} :
    (struct name fields).borshType? = none ↔ (struct name fields).containsUnknown = true := by
  simp [borshType?, containsUnknown]

theorem borshType?_enum_ne_none {name : String} {size : Idl.NumberFormat}
    {variants : List VariantCodec} : (enum name size variants).borshType? ≠ none := by
  simp [borshType?]

theorem annotation?_eq_none_iff_borshType? : codec.annotation? = none ↔ codec.borshType? = none :=
  Option.map_eq_none_iff

/-! ## What keeps a codec from being annotated -/

/-- A codec that is refused as soon as an expression comes across it: it is of unknown kind, or it
is a struct that holds a part of unknown kind. -/
def isRefused : Codec → Bool
  | .unknown _ => true
  | .struct _ fields => fieldsContainUnknown fields
  | _ => false

/-- An enum that holds a part of unknown kind. -/
def isOverlooked : Codec → Bool
  | .enum _ _ variants => variantsContainUnknown variants
  | _ => false

theorem containsUnknown_of_isRefused (h : codec.isRefused = true) :
    codec.containsUnknown = true := by
  cases codec <;> first | exact h | cases h

theorem containsUnknown_of_isOverlooked (h : codec.isOverlooked = true) :
    codec.containsUnknown = true := by
  cases codec <;> first | exact h | cases h

/-- A part of unknown kind in anything that an expression comes across is part of the whole. -/
theorem containsUnknown_of_reaches {through : Codec → Prop} {inner : Codec}
    (h : codec.Reaches through inner) (hinner : inner.containsUnknown = true) :
    codec.containsUnknown = true := by
  induction h with
  | here => exact hinner
  | inside _ hpart _ ih => exact containsUnknown_iff.mpr (.inr ⟨_, hpart, ih hinner⟩)

/-- **An expression fails at what it comes across**: a codec has none exactly if it comes across a
codec that is refused. -/
theorem borshType?_eq_none_iff (codec : Codec) : codec.borshType? = none ↔
    ∃ inner, codec.Spells inner ∧ inner.isRefused = true := by
  induction codec using induction_parts with
  | step codec ih =>
  rw [Spells, exists_reaches_iff]
  cases hclass : codec.isClass with
  | true =>
    cases codec
    case struct =>
      simpa [isRefused, isClass, containsUnknown] using borshType?_struct_eq_none_iff
    case enum => simpa [isRefused, isClass] using borshType?_enum_ne_none
    all_goals cases hclass
  | false =>
    have hown : codec.isRefused = codec.isUnknown := by
      cases codec <;> first | rfl | cases hclass
    rw [borshType?_eq_none_iff_of_isClass hclass, hown]
    simp only [true_and]
    exact or_congr_right (exists_congr fun part => and_congr_right fun hpart => ih part hpart)

/-- **A part of unknown kind shows up in one of two ways**: where an expression comes across it, or
in an enum. -/
theorem containsUnknown_iff_spells (codec : Codec) : codec.containsUnknown = true ↔
    ∃ inner, codec.Spells inner ∧ (inner.isRefused = true ∨ inner.isOverlooked = true) := by
  constructor
  · induction codec using induction_parts with
    | step codec ih =>
    intro h
    cases hclass : codec.isClass with
    | true =>
      -- The expression stops at the class, which is the codec in question.
      refine ⟨codec, .here codec, ?_⟩
      cases codec
      case struct => exact .inl h
      case enum => exact .inr h
      all_goals cases hclass
    | false =>
      rcases containsUnknown_iff.mp h with hown | ⟨part, hpart, h⟩
      · refine ⟨codec, .here codec, .inl ?_⟩
        cases codec <;> first | rfl | cases hown
      · obtain ⟨inner, hspells, hinner⟩ := ih part hpart h
        exact ⟨inner, .inside hclass hpart hspells, hinner⟩
  · rintro ⟨inner, hspells, hinner | hinner⟩
    · exact containsUnknown_of_reaches hspells (containsUnknown_of_isRefused hinner)
    · exact containsUnknown_of_reaches hspells (containsUnknown_of_isOverlooked hinner)

/-- **Which codecs are annotated.** A codec is left without annotation exactly if its expression
comes across a part of unknown kind or a struct that holds one. So a codec that holds a part of
unknown kind is left without annotation, except if its expression only comes across enums that hold
such parts. -/
theorem annotation?_eq_none_iff (codec : Codec) :
    (codec.annotation? = none ↔ ∃ inner, codec.Spells inner ∧ inner.isRefused = true) ∧
    (codec.containsUnknown = true ↔
      codec.annotation? = none ∨ ∃ inner, codec.Spells inner ∧ inner.isOverlooked = true) := by
  rw [annotation?_eq_none_iff_borshType?, borshType?_eq_none_iff, containsUnknown_iff_spells]
  refine ⟨Iff.rfl, ?_⟩
  simp only [and_or_left, exists_or]

/-- An enum is annotated although the payload of its variant has no layout. -/
theorem annotation?_enum_of_unknown_payload :
    ∃ codec : Codec, codec.containsUnknown = true ∧ codec.annotation? ≠ none := by
  refine ⟨.enum "Choice" .u8 [⟨"Other", 0, .tuple [.unknown "mystery"]⟩], ?_, ?_⟩
  · decide +kernel
  · decide +kernel

/-! ## Sizes -/

theorem exists_of_rowSize? {n : Nat} : ∀ {sizes : List (Option Nat)}, rowSize? sizes = some n →
    ∀ size? ∈ sizes, ∃ m, size? = some m
  | size? :: sizes, h, other?, hmem => by
    obtain ⟨m, k, rfl, hrest, -⟩ := rowSize?_cons_eq_some_iff.mp h
    rcases List.mem_cons.mp hmem with rfl | hmem
    · exact ⟨m, rfl⟩
    · exact exists_of_rowSize? hrest other? hmem

/-- A value of a declared number of bytes, whatever is in it. -/
def isFixedSize : Codec → Bool
  | .fixedSize _ _ => true
  | _ => false

theorem exists_maxSize?_of_items {items : List Codec} {item : Codec} {n : Nat}
    (hsize : maxSizeOfItems items = some n) (hitem : item ∈ items) :
    ∃ m, item.maxSize? = some m :=
  exists_of_rowSize? ((maxSizeOfItems_eq_rowSize? items).symm.trans hsize) _
    (List.mem_map_of_mem hitem)

/-- **A greatest size needs one of every part**, unless the size is declared. -/
theorem exists_maxSize?_of_part {part : Codec} {n : Nat} (hfixed : codec.isFixedSize = false)
    (hsize : codec.maxSize? = some n) (hpart : part ∈ codec.parts) :
    ∃ m, part.maxSize? = some m := by
  cases codec
  case number | boolean | string | bytes | publicKey | defined | unknown => cases hpart
  case fixedSize => cases hfixed
  case sizePrefixed => cases hsize
  case option item flag isFixed =>
    obtain rfl := List.mem_singleton.mp hpart
    obtain ⟨m, hm, -⟩ := Option.bind_eq_some_iff.mp hsize
    exact ⟨m, hm⟩
  case list item count | set item count =>
    obtain rfl := List.mem_singleton.mp hpart
    cases count
    case fixed count =>
      -- The count may be zero, but the item is asked for its size before it is multiplied.
      obtain ⟨m, hm, -⟩ := exists_factor_of_checkedSize hsize
      exact ⟨m, hm⟩
    all_goals cases hsize
  case typedArray item count =>
    obtain rfl := List.mem_singleton.mp hpart
    obtain ⟨m, hm, -⟩ := exists_factor_of_checkedSize hsize
    exact ⟨m, maxSize?_of_fixedSize? part m hm⟩
  case map key val count =>
    cases count
    case fixed count =>
      simp only [maxSize?, Option.bind_eq_bind, Option.bind_eq_some_iff] at hsize
      obtain ⟨ksize, hk, vsize, hv, -⟩ := hsize
      simp only [parts, List.mem_cons, List.not_mem_nil, or_false] at hpart
      rcases hpart with rfl | rfl
      · exact ⟨ksize, hk⟩
      · exact ⟨vsize, hv⟩
    all_goals cases hsize
  case tuple items => exact exists_maxSize?_of_items hsize hpart
  case struct name fields =>
    rw [maxSize?, maxSizeOfFields_eq_items] at hsize
    exact exists_maxSize?_of_items hsize hpart
  case enum name size variants =>
    obtain ⟨variant, hvariant, hpart⟩ := List.mem_flatMap.mp hpart
    simp only [maxSize?, maxSizesOfVariants_eq_map, Option.bind_eq_bind,
      Option.bind_eq_some_iff] at hsize
    obtain ⟨payload, hpayload, -⟩ := hsize
    obtain ⟨m, hm, -⟩ := exists_le_of_greatestSize? hpayload _ (List.mem_map_of_mem hvariant)
    exact exists_maxSize?_of_items hm hpart

/-- **A part of unknown kind outside of declared sizes leaves no size**, neither a greatest nor an
exact one. -/
theorem sizes_eq_none_of_reaches {kind : String}
    (h : codec.Reaches (fun codec => codec.isFixedSize = false) (.unknown kind)) :
    codec.fixedSize? = none ∧ codec.maxSize? = none := by
  have hmax : codec.maxSize? = none := by
    generalize hinner : Codec.unknown kind = inner at h
    induction h with
    | here => exact hinner ▸ rfl
    | inside hfixed hpart _ ih =>
      refine Option.eq_none_iff_forall_ne_some.mpr fun n hsize => ?_
      obtain ⟨m, hm⟩ := exists_maxSize?_of_part hfixed hsize hpart
      cases (ih hinner).symm.trans hm
  refine ⟨Option.eq_none_iff_forall_ne_some.mpr fun n hsize => ?_, hmax⟩
  cases hmax.symm.trans (maxSize?_of_fixedSize? codec n hsize)

end Codec

end DartClient
