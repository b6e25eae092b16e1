import DartClient.Proofs.Codec.Calls
import Mathlib.Data.List.Nodup

/-!
# The expression tells the layout

The name of a call goes up to the first parenthesis, and no two names are spelled alike; in
particular the style that goes without saying cannot be taken for another one. The arguments begin
with a digit, with a letter or with a bracket, and are legible one by one, hence the whole call is.

What is read back is the codec in which every typed list is a list of a fixed number of items, as
the two are spelled alike. They also have the same wire format, so the expression tells the wire
format.

## Main results

* `Callee.name_injective`: the names of calls are distinct.
* `Codec.legible_spelling`: an expression tells its codec and where it ends.
* `Codec.same_layout_of_expression_eq`: the expression tells the layout.
-/

namespace DartClient

open Idl (NumberFormat)
open Text (Delimited Legible isDelimiter listed)

/-! ## Names of calls -/

namespace Callee

theorem mem_all (callee : Callee) : callee ∈ all := by
  cases callee
  case number format => cases format <;> decide
  case styled style kind => cases style <;> cases kind <;> decide
  all_goals decide

/-- **The names of calls are distinct.** -/
theorem name_injective : Function.Injective name := by
  -- There are a few dozen names, so they are compared with one another.
  have hnodup : (all.map name).Nodup := by decide +kernel
  exact fun callee callee' h => List.inj_on_of_nodup_map hnodup callee.mem_all callee'.mem_all h

/-- A name goes up to the first parenthesis. -/
theorem ne_paren_of_mem_name (callee : Callee) : ∀ c ∈ callee.name, (c != '(') = true := by
  have hall : (all.all fun callee => callee.name.all (· != '(')) = true := by decide +kernel
  exact List.all_eq_true.mp (List.all_eq_true.mp hall callee callee.mem_all)

theorem head?_name (callee : Callee) : callee.name.head? = some 'B' := by
  have hall : (all.all fun callee => callee.name.head? == some 'B') = true := by decide +kernel
  exact beq_iff_eq.mp (List.all_eq_true.mp hall callee callee.mem_all)

end Callee

/-! ## Beginnings -/

/-- The codecs in the argument have no names. -/
def CallArgument.Nameless : CallArgument → Prop
  | .size _ => True
  | .item codec => codec.Nameless
  | .row items => ∀ item ∈ items, item.Nameless

/-- The characters that begin an argument of the kind. -/
def CallArgument.begins : CallArgument → Char → Bool
  | .size _, c => c.isDigit
  | .item _, c => c == 'B'
  | .row _, c => c == '['

theorem Codec.exists_spelling_cons {codec : Codec} (h : codec.Nameless) :
    ∃ tail, codec.spelling = 'B' :: tail := by
  obtain ⟨call, -, hspelling⟩ := Codec.exists_call h
  obtain ⟨tail, htail⟩ := List.head?_eq_some_iff.mp call.callee.head?_name
  exact ⟨_, by rw [hspelling, Call.spelling, htail, List.cons_append]⟩

namespace CallArgument

theorem spelling_size (n : Nat) : (size n).spelling = Nat.toDigits 10 n := Nat.toList_repr

theorem isDigit_of_mem_spelling {n : Nat} : ∀ c ∈ (size n).spelling, c.isDigit = true :=
  Text.isDigit_of_mem_toString

theorem size_injective {n m : Nat} (h : (size n).spelling = (size m).spelling) : n = m := by
  apply Text.toString_injective
  exact String.toList_inj.mp h

/-- An argument tells its kind by its first character. -/
theorem exists_spelling_cons {argument : CallArgument} (h : argument.Nameless) :
    ∃ c tail, argument.spelling = c :: tail ∧ argument.begins c = true := by
  cases argument with
  | size n =>
    have hne : (size n).spelling ≠ [] := by
      rw [spelling_size]
      exact Nat.toDigits_ne_nil
    obtain ⟨c, tail, hspelling⟩ := List.exists_cons_of_ne_nil hne
    exact ⟨c, tail, hspelling, isDigit_of_mem_spelling c (hspelling ▸ List.mem_cons_self)⟩
  | item codec =>
    obtain ⟨tail, htail⟩ := Codec.exists_spelling_cons h
    exact ⟨'B', tail, htail, rfl⟩
  | row items => exact ⟨'[', _, rfl, rfl⟩

theorem begins_of_isDelimiter {argument : CallArgument} {c : Char} (h : isDelimiter c = true) :
    argument.begins c = false := by
  simp only [isDelimiter, Bool.or_eq_true, beq_iff_eq] at h
  obtain (rfl | rfl) | rfl := h <;> cases argument <;> rfl

/-- An argument does not begin with a delimiter. -/
theorem exists_beginning {argument : CallArgument} (h : argument.Nameless) :
    ∃ c tail, argument.spelling = c :: tail ∧ isDelimiter c = false := by
  obtain ⟨c, tail, hspelling, hc⟩ := exists_spelling_cons h
  refine ⟨c, tail, hspelling, Bool.eq_false_iff.mpr fun hdelimiter => ?_⟩
  rw [begins_of_isDelimiter hdelimiter] at hc
  cases hc

/-- Arguments that are spelled alike up to a point begin with the same character. -/
theorem exists_common_beginning {argument argument' : CallArgument} {text text' : List Char}
    (h : argument.Nameless) (h' : argument'.Nameless)
    (heq : argument.spelling ++ text = argument'.spelling ++ text') :
    ∃ c, argument.begins c = true ∧ argument'.begins c = true := by
  obtain ⟨c, tail, hspelling, hc⟩ := exists_spelling_cons h
  obtain ⟨c', tail', hspelling', hc'⟩ := exists_spelling_cons h'
  rw [hspelling, hspelling'] at heq
  obtain ⟨rfl, -⟩ := List.cons.inj heq
  exact ⟨c, hc, hc'⟩

/-! ## Legible arguments -/

theorem legible_size (n : Nat) : Legible Nameless spelling unpacked (.size n) := by
  intro argument text text' h htext htext' heq
  have hsize : (size n).Nameless := trivial
  obtain ⟨c, hc, hc'⟩ := exists_common_beginning hsize h heq
  cases argument with
  | size m =>
    obtain ⟨d, rest, rfl, hd⟩ := htext
    obtain ⟨d', rest', rfl, hd'⟩ := htext'
    -- No delimiter is a digit, so both numbers end where the texts behind them begin.
    have hstop : ∀ {c : Char}, isDelimiter c = true → (size n).begins c = false :=
      begins_of_isDelimiter
    obtain ⟨hdigits, hrest⟩ := Text.append_inj_of_stops (hstop hd) (hstop hd')
      isDigit_of_mem_spelling isDigit_of_mem_spelling heq
    exact ⟨congrArg size (size_injective hdigits), hrest⟩
  | item codec =>
    obtain rfl : c = 'B' := beq_iff_eq.mp hc'
    cases hc
  | row items =>
    obtain rfl : c = '[' := beq_iff_eq.mp hc'
    cases hc

theorem legible_item {codec : Codec} (hnameless : codec.Nameless)
    (hcodec : Legible Codec.Nameless Codec.spelling Codec.unpacked codec) :
    Legible Nameless spelling unpacked (.item codec) := by
  intro argument text text' h htext htext' heq
  have hitem : (item codec).Nameless := hnameless
  obtain ⟨c, hc, hc'⟩ := exists_common_beginning hitem h heq
  obtain rfl : c = 'B' := beq_iff_eq.mp hc
  cases argument with
  | size n => cases hc'
  | item codec' =>
    obtain ⟨hunpacked, hrest⟩ := hcodec codec' text text' h htext htext' heq
    exact ⟨congrArg item hunpacked, hrest⟩
  | row items => cases hc'

theorem legible_row {items : List Codec} (hitems : ∀ item ∈ items,
      item.Nameless ∧ Legible Codec.Nameless Codec.spelling Codec.unpacked item) :
    Legible Nameless spelling unpacked (.row items) := by
  intro argument text text' h htext htext' heq
  have hrow : (row items).Nameless := fun item hitem => (hitems item hitem).1
  obtain ⟨c, hc, hc'⟩ := exists_common_beginning hrow h heq
  obtain rfl : c = '[' := beq_iff_eq.mp hc
  cases argument with
  | size n => cases hc'
  | item codec' => cases hc'
  | row items' =>
    have hlisted : listed (items.map Codec.spelling) ++ ']' :: text =
        listed (items'.map Codec.spelling) ++ ']' :: text' := by
      simpa [spelling] using heq
    have hstart : ∀ codec : Codec, codec.Nameless →
        ∃ c rest, codec.spelling = c :: rest ∧ isDelimiter c = false := by
      intro codec hcodec
      obtain ⟨tail, htail⟩ := Codec.exists_spelling_cons hcodec
      exact ⟨'B', tail, htail, rfl⟩
    obtain ⟨hunpacked, hrest⟩ :=
      Text.map_eq_of_listed rfl (by decide) hstart hitems h hlisted
    exact ⟨congrArg row hunpacked, hrest⟩

/-- The arguments of a call that names the codec: sizes, formats of numbers, and parts. -/
inductive IsOf (codec : Codec) : CallArgument → Prop
  | size (n : Nat) : IsOf codec (.size n)
  | number (format : NumberFormat) : IsOf codec (.item (.number format))
  | part {part : Codec} (hpart : part ∈ codec.parts) : IsOf codec (.item part)
  | row : IsOf codec (.row codec.parts)

theorem IsOf.nameless {codec : Codec} {argument : CallArgument} (h : argument.IsOf codec)
    (hcodec : codec.Nameless) : argument.Nameless := by
  cases h with
  | size n => exact trivial
  | number format => exact Codec.nameless_number format
  | part hpart => exact hcodec.of_part hpart
  | row => exact fun item hitem => hcodec.of_part hitem

theorem isOf_of_mem_length {codec : Codec} {usual : NumberFormat} {length : Length} :
    ∀ argument ∈ length.arguments usual, argument.IsOf codec := by
  intro argument h
  cases length with
  | prefixed format =>
    rw [Length.arguments] at h
    split at h
    · cases h
    · obtain rfl := List.mem_singleton.mp h
      exact .number format
  | fixed n =>
    obtain rfl := List.mem_singleton.mp h
    exact .size n
  | remainder => cases h

theorem isOf_of_mem_styled {codec : Codec} {kind : StyledKind} {length : Length}
    {arguments : List CallArgument} (h : ∀ argument ∈ arguments, argument.IsOf codec) :
    ∀ argument ∈ (kind.call length arguments).arguments, argument.IsOf codec :=
  List.forall_mem_append.mpr ⟨isOf_of_mem_length, h⟩

theorem isOf_of_mem {codec : Codec} {call : Call} (hcall : codec.call? = some call) :
    ∀ argument ∈ call.arguments, argument.IsOf codec := by
  cases codec
  case struct | enum | defined | unknown => cases hcall
  case option item flag isFixed =>
    have hitem : (CallArgument.item item).IsOf (.option item flag isFixed) :=
      .part List.mem_cons_self
    cases isFixed <;> obtain rfl := Option.some.inj hcall
    · exact isOf_of_mem_styled (List.forall_mem_singleton.mpr hitem)
    · exact List.forall_mem_cons.mpr ⟨.number flag, List.forall_mem_singleton.mpr hitem⟩
  all_goals obtain rfl := Option.some.inj hcall
  case number | publicKey => exact List.forall_mem_nil _
  case boolean | string | bytes => exact isOf_of_mem_styled (List.forall_mem_nil _)
  case list | typedArray | set =>
    exact isOf_of_mem_styled (List.forall_mem_singleton.mpr (.part List.mem_cons_self))
  case map key value count =>
    refine isOf_of_mem_styled (List.forall_mem_cons.mpr ⟨.part List.mem_cons_self, ?_⟩)
    exact List.forall_mem_singleton.mpr (.part (List.mem_cons_of_mem key List.mem_cons_self))
  case tuple => exact List.forall_mem_singleton.mpr .row
  case sizePrefixed inner width =>
    exact List.forall_mem_cons.mpr
      ⟨.number width, List.forall_mem_singleton.mpr (.part List.mem_cons_self)⟩
  case fixedSize inner size =>
    exact List.forall_mem_cons.mpr
      ⟨.size size, List.forall_mem_singleton.mpr (.part List.mem_cons_self)⟩

end CallArgument

/-! ## Legible expressions -/

namespace Codec

/-- **A call is legible if its arguments are.** -/
theorem legible_of_arguments {codec : Codec} {call : Call} (hcodec : codec.Nameless)
    (hcall : codec.call? = some call) (harguments : ∀ argument ∈ call.arguments,
      Legible CallArgument.Nameless CallArgument.spelling CallArgument.unpacked argument) :
    Legible Nameless spelling unpacked codec := by
  intro codec' text text' hcodec' _ _ heq
  obtain ⟨call, hcall₁, hspelling⟩ := exists_call hcodec
  obtain rfl := Option.some.inj (hcall.symm.trans hcall₁)
  obtain ⟨call', hcall', hspelling'⟩ := exists_call hcodec'
  have hsplit :
      call.callee.name ++
          '(' :: (listed (call.arguments.map CallArgument.spelling) ++ ')' :: text) =
        call'.callee.name ++
          '(' :: (listed (call'.arguments.map CallArgument.spelling) ++ ')' :: text') := by
    simpa [hspelling, hspelling', Call.spelling] using heq
  -- The name ends at the parenthesis that opens the row of arguments.
  obtain ⟨hname, htail⟩ := Text.append_inj_of_stops rfl rfl call.callee.ne_paren_of_mem_name
    call'.callee.ne_paren_of_mem_name hsplit
  have hnameless : ∀ argument ∈ call.arguments, argument.Nameless :=
    fun argument hmem => (CallArgument.isOf_of_mem hcall argument hmem).nameless hcodec
  have hnameless' : ∀ argument ∈ call'.arguments, argument.Nameless :=
    fun argument hmem => (CallArgument.isOf_of_mem hcall' argument hmem).nameless hcodec'
  obtain ⟨hunpacked, hrest⟩ := Text.map_eq_of_listed rfl (by decide)
    (fun argument => CallArgument.exists_beginning)
    (fun argument hmem => ⟨hnameless argument hmem, harguments argument hmem⟩) hnameless'
    (List.cons.inj htail).2
  have hcalls : call.unpacked = call'.unpacked := by
    rw [Call.unpacked, Call.unpacked, Callee.name_injective hname, hunpacked]
  refine ⟨Option.some.inj ?_, hrest⟩
  rw [← codec?_unpacked hcall, hcalls, codec?_unpacked hcall']

theorem legible_number (format : NumberFormat) :
    Legible Nameless spelling unpacked (.number format) :=
  legible_of_arguments (nameless_number format) rfl (List.forall_mem_nil _)

/-- **An expression tells its codec and where it ends**, up to typed lists. -/
theorem legible_spelling {codec : Codec} (h : codec.Nameless) :
    Legible Nameless spelling unpacked codec := by
  induction codec using induction_parts with
  | step codec ih =>
  obtain ⟨call, hcall, -⟩ := exists_call h
  refine legible_of_arguments h hcall fun argument hargument => ?_
  -- The format of a number is an argument but no part, so the induction does not reach it.
  cases CallArgument.isOf_of_mem hcall argument hargument with
  | size n => exact CallArgument.legible_size n
  | number format =>
    exact CallArgument.legible_item (nameless_number format) (legible_number format)
  | part hpart => exact CallArgument.legible_item (h.of_part hpart) (ih _ hpart (h.of_part hpart))
  | row =>
    exact CallArgument.legible_row fun item hitem =>
      ⟨h.of_part hitem, ih item hitem (h.of_part hitem)⟩

/-- **The expression tells the layout.** Two codecs without names that have the same expression
write every value to the same bytes, or both fail; they read every input to the same value with the
same rest, or both fail; and they have the same size. They have the same expression if and only if
they differ in nothing but typed lists and lists of the same fixed number of items. -/
theorem same_layout_of_expression_eq {codec codec' : Codec} (h : codec.Nameless)
    (h' : codec'.Nameless) :
    (codec.borshType? = codec'.borshType? →
      (∀ value bytes, codec.encode value = .ok bytes ↔ codec'.encode value = .ok bytes) ∧
      (∀ input value rest, codec.read input = (.ok value, rest) ↔
        codec'.read input = (.ok value, rest)) ∧
      codec.fixedSize? = codec'.fixedSize?) ∧
    (codec.borshType? = codec'.borshType? ↔ codec.unpacked = codec'.unpacked) := by
  have hunpacked : codec.borshType? = codec'.borshType? → codec.unpacked = codec'.unpacked := by
    intro heq
    -- With the same delimiter behind them, both expressions are read back whole.
    have hspelling : codec.spelling = codec'.spelling := by rw [spelling, spelling, heq]
    have hclosing : Delimited [')'] := Text.delimited_cons rfl []
    exact (legible_spelling h codec' [')'] [')'] h' hclosing hclosing (by rw [hspelling])).1
  refine ⟨fun heq => ?_, hunpacked, fun heq => ?_⟩
  · have hwire : codec.SameWire codec' := by
      refine codec.sameWire_unpacked.symm.trans ?_
      rw [hunpacked heq]
      exact codec'.sameWire_unpacked
    refine ⟨fun value bytes => ?_, hwire.reads, hwire.size⟩
    rw [encode_eq_ok_iff, encode_eq_ok_iff]
    exact hwire.writes value bytes
  · rw [← codec.borshType?_unpacked, heq, codec'.borshType?_unpacked]

/-- A map to pairs of numbers, which are packed or not. -/
theorem same_layout_of_expression_eq_pairs :
    let packed : Codec := .map (.string .borsh) (.typedArray (.number .i16) 2) (.prefixed .u8)
    let listed : Codec := .map (.string .borsh) (.list (.number .i16) (.fixed 2)) (.prefixed .u8)
    packed.borshType? = some "BPrefixedMap(BU8(), BString(), BFixedArray(2, BI16()))" ∧
      ∀ value bytes, packed.encode value = .ok bytes ↔ listed.encode value = .ok bytes := by
  intro packed listed
  have hkey : Nameless (.string .borsh) := .intro rfl (List.forall_mem_nil _)
  have hitems : ∀ item ∈ [Codec.number .i16], item.Nameless :=
    List.forall_mem_singleton.mpr (nameless_number .i16)
  have hpacked : packed.Nameless :=
    .intro rfl (List.forall_mem_cons.mpr ⟨hkey, List.forall_mem_singleton.mpr (.intro rfl hitems)⟩)
  have hlisted : listed.Nameless :=
    .intro rfl (List.forall_mem_cons.mpr ⟨hkey, List.forall_mem_singleton.mpr (.intro rfl hitems)⟩)
  obtain ⟨hlayout, -⟩ := same_layout_of_expression_eq hpacked hlisted
  exact ⟨by decide +kernel, (hlayout (by decide +kernel)).1⟩

end Codec

end DartClient
