import DartClient.Codec.Annotation
import DartClient.Proofs.Codec.Anonymous

/-!
# Typed lists as lists

A typed list holds a fixed number of numbers. As a list of that many items it has the same wire
format, and the expression that names it does not tell the two apart.

## Main definitions

* `Codec.unpacked`: a codec with its typed lists as lists.

## Main results

* `Codec.sameWire_unpacked`: the wire format is the same.
* `Codec.borshType?_unpacked`: so is the expression.
-/

namespace DartClient

namespace Codec

mutual

/-- The codec with its typed lists as lists of a fixed number of items. Classes are left as they
are. -/
def unpacked : Codec → Codec
  | .option item flag isFixed => .option item.unpacked flag isFixed
  | .list item count => .list item.unpacked count
  | .typedArray item count => .list item.unpacked (.fixed count)
  | .set item count => .set item.unpacked count
  | .map key value count => .map key.unpacked value.unpacked count
  | .tuple items => .tuple (unpackedItems items)
  | .sizePrefixed inner width => .sizePrefixed inner.unpacked width
  | .fixedSize inner size => .fixedSize inner.unpacked size
  | codec => codec

/-- Items with their typed lists as lists. -/
def unpackedItems : List Codec → List Codec
  | [] => []
  | item :: items => item.unpacked :: unpackedItems items

end

theorem unpackedItems_eq_map : ∀ items : List Codec, unpackedItems items = items.map unpacked
  | [] => rfl
  | item :: items => by rw [unpackedItems, unpackedItems_eq_map items, List.map_cons]

/-- A codec has the same wire format with its typed lists as lists. -/
theorem sameWire_unpacked (codec : Codec) : codec.unpacked.SameWire codec := by
  induction codec using induction_parts with
  | step codec ih =>
  cases codec
  case option item flag isFixed => exact (ih item List.mem_cons_self).option flag isFixed
  case list item count => exact (ih item List.mem_cons_self).list count
  case typedArray item count =>
    exact ((ih item List.mem_cons_self).list (.fixed count)).trans
      (SameWire.typedArray_list item count).symm
  case set item count => exact (ih item List.mem_cons_self).set count
  case map key value count =>
    exact (ih key List.mem_cons_self).map (ih value (List.mem_cons_of_mem key List.mem_cons_self))
      count
  case tuple items =>
    show (Codec.tuple (unpackedItems items)).SameWire _
    rw [unpackedItems_eq_map]
    exact .tuple (forall₂_map_self ih)
  case sizePrefixed inner width => exact (ih inner List.mem_cons_self).sizePrefixed width
  case fixedSize inner size => exact (ih inner List.mem_cons_self).fixedSize size
  all_goals exact .refl _

/-! ## The expression -/

theorem lengthBorshType_fixed_array (count : Nat) (text : String) :
    lengthBorshType "Array" (.fixed count) [text] =
      "BFixedArray(" ++ toString count ++ ", " ++ text ++ ")" := by
  have hopening : "BFixed" ++ "Array" ++ "(" = "BFixedArray(" := rfl
  simp only [lengthBorshType, hopening, String.intercalate_cons_cons, String.intercalate_singleton,
    String.append_assoc]

theorem itemBorshTypes?_unpacked : ∀ {items : List Codec},
    (∀ item ∈ items, item.unpacked.borshType? = item.borshType?) →
      itemBorshTypes? (unpackedItems items) = itemBorshTypes? items
  | [], _ => rfl
  | item :: items, h => by
    obtain ⟨hitem, hitems⟩ := List.forall_mem_cons.mp h
    rw [unpackedItems, itemBorshTypes?, itemBorshTypes?, hitem, itemBorshTypes?_unpacked hitems]

/-- The expression does not tell typed lists from lists. -/
theorem borshType?_unpacked (codec : Codec) : codec.unpacked.borshType? = codec.borshType? := by
  induction codec using induction_parts with
  | step codec ih =>
  cases codec
  case map key value count =>
    rw [unpacked, borshType?, borshType?, ih key List.mem_cons_self,
      ih value (List.mem_cons_of_mem key List.mem_cons_self)]
  case tuple items =>
    have hitems : itemBorshTypes? (unpackedItems items) = itemBorshTypes? items :=
      itemBorshTypes?_unpacked ih
    rw [unpacked, borshType?, borshType?, hitems]
  case typedArray item count =>
    simp only [unpacked, borshType?, ih item List.mem_cons_self, lengthBorshType_fixed_array]
  case option item _ _ | list item _ | set item _ | sizePrefixed item _ | fixedSize item _ =>
    rw [unpacked, borshType?, borshType?, ih item List.mem_cons_self]
  all_goals rfl

end Codec

end DartClient
