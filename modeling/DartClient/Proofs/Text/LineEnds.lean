import DartClient.Text.Lines
import DartClient.Proofs.Text.Legible
import DartClient.Proofs.Text.Words
import Mathlib.Data.List.Basic

/-!
# Lines as they are read

A text is written line by line, but it is read up to each line feed and each carriage return, also
where one stands inside of what was written as one line. So what is written as a line is read as its
beginning and what is continued behind each line end in it. The lines of a text as they are read are
those of the written lines, one written line after the other.

All lines of a comment begin with the mark of the comment, also those that are continued. For a
written line that begins with the mark this is a matter of the continuations alone. A text without
line ends has none, and what is written around a text on its line does not change those of the text.

## Main definitions

* `Text.physicalLines`: the lines of a text as they are read.
* `Text.continuations`: what is continued behind the line ends in a text.
* `Text.OneLine`: a text has no line end.
* `Text.tails`: what is continued in a list of texts.
* `Text.Marked`: every line of a text begins with a mark.

## Main results

* `Text.physicalLines_unlines`: the lines of what is written line by line.
* `Text.marked_unlines_iff`: when all lines of what is written begin with a mark.
-/

namespace DartClient.Text

variable {mark line text : String} {lines : List String}

/-! ## Line ends -/

/-- The character ends a line. -/
def isLineEnd (c : Char) : Bool := c == '\n' || c == '\r'

/-- What stands between the line ends of a text. -/
def pieces (text : String) : List (List Char) := text.toList.splitOnP isLineEnd

/-- What is continued behind the line ends in a text. -/
def continuations (text : String) : List (List Char) := (pieces text).tail

/-- The lines of a text as they are read. What stands behind the last line end is a line if there is
anything. -/
def physicalLines (text : String) : List (List Char) :=
  if (pieces text).getLast? = some [] then (pieces text).dropLast else pieces text

/-- A text has no line end. -/
def OneLine (text : String) : Prop := ∀ c ∈ text.toList, isLineEnd c = false

instance (text : String) : Decidable (OneLine text) :=
  List.decidableBAll (isLineEnd · = false) text.toList

@[simp] theorem oneLine_append {rest : String} :
    OneLine (text ++ rest) ↔ OneLine text ∧ OneLine rest := by
  unfold OneLine
  rw [String.toList_append, List.forall_mem_append]

theorem OneLine.append {rest : String} (h : OneLine text) (hrest : OneLine rest) :
    OneLine (text ++ rest) := oneLine_append.mpr ⟨h, hrest⟩

/-- A text that is written out has no line end if none of its characters is one. -/
theorem oneLine_ofList {cs : List Char} (h : (cs.all fun c => !isLineEnd c) = true) :
    OneLine (.ofList cs) := by
  intro c hc
  rw [String.toList_ofList] at hc
  exact (Bool.not_eq_true' _).mp (List.all_eq_true.mp h c hc)

theorem oneLine_of_not_mem (hfeed : '\n' ∉ text.toList) (hreturn : '\r' ∉ text.toList) :
    OneLine text := by
  intro c hc
  rw [isLineEnd, Bool.or_eq_false_iff, beq_eq_false_iff_ne, beq_eq_false_iff_ne]
  exact ⟨fun heq => hfeed (heq ▸ hc), fun heq => hreturn (heq ▸ hc)⟩

theorem oneLine_intercalate {separator : String} (hseparator : OneLine separator)
    {texts : List String} (h : ∀ text ∈ texts, OneLine text) :
    OneLine (separator.intercalate texts) := by
  intro c hc
  rw [String.toList_intercalate] at hc
  rcases mem_of_mem_intercalate hc with hc | ⟨cs, hcs, hc⟩
  · exact hseparator c hc
  · obtain ⟨text, htext, rfl⟩ := List.mem_map.mp hcs
    exact h text htext c hc

theorem oneLine_toString (n : Nat) : OneLine (toString n) :=
  oneLine_of_not_mem (fun h => absurd (isDigit_of_mem_toString _ h) (by decide))
    (fun h => absurd (isDigit_of_mem_toString _ h) (by decide))

/-! ### Names -/

theorem oneLine_upperCamel (name : String) : OneLine (upperCamel name) :=
  oneLine_of_not_mem (not_mem_upperCamel (by decide) (by decide) (by decide))
    (not_mem_upperCamel (by decide) (by decide) (by decide))

theorem oneLine_lowerCamel (name : String) : OneLine (lowerCamel name) :=
  oneLine_of_not_mem (not_mem_lowerCamel (by decide) (by decide) (by decide))
    (not_mem_lowerCamel (by decide) (by decide) (by decide))

theorem oneLine_snake (name : String) : OneLine (snake name) :=
  oneLine_of_not_mem (not_mem_snake (by decide) (by decide) (by decide) (by decide))
    (not_mem_snake (by decide) (by decide) (by decide) (by decide))

/-! ### Pieces -/

/-- Characters that end no line stand in front of the first piece. -/
theorem splitOnP_append {front rest : List Char} (hfront : ∀ c ∈ front, isLineEnd c = false) :
    (front ++ rest).splitOnP isLineEnd = (rest.splitOnP isLineEnd).modifyHead (front ++ ·) := by
  induction front with
  | nil => exact (congrFun List.modifyHead_id _).symm
  | cons c front ih =>
    obtain ⟨hc, hfront⟩ := List.forall_mem_cons.mp hfront
    rw [List.cons_append, List.splitOnP_cons_eq_if_modifyHead, if_neg (by simp [hc]), ih hfront,
      List.modifyHead_modifyHead]
    rfl

/-- A text without line ends stands in front of the first piece of the other one. -/
theorem pieces_append (h : OneLine text) (rest : String) :
    pieces (text ++ rest) = (pieces rest).modifyHead (text.toList ++ ·) := by
  rw [pieces, String.toList_append]
  exact splitOnP_append h

theorem continuations_append (h : OneLine text) (rest : String) :
    continuations (text ++ rest) = continuations rest := by
  rw [continuations, pieces_append h, List.tail_modifyHead]
  rfl

theorem pieces_of_oneLine (h : OneLine text) : pieces text = [text.toList] :=
  List.splitOnP_eq_singleton h

theorem continuations_of_oneLine (h : OneLine text) : continuations text = [] := by
  rw [continuations, pieces_of_oneLine h]
  rfl

/-- A text without line ends that begins with a mark is read as one line with that mark. -/
theorem filter_pieces_of_prefix (h : OneLine text) (hmark : mark.toList <+: text.toList) :
    (pieces text).filter (mark.toList.isPrefixOf ·) = [text.toList] := by
  rw [pieces_of_oneLine h, List.filter_cons_of_pos (List.isPrefixOf_iff_prefix.mpr hmark),
    List.filter_nil]

/-! ## Written lines -/

/-- What stands behind written lines begins a new line. -/
theorem pieces_unlines_append (lines : List String) (rest : String) :
    pieces (unlines lines ++ rest) = lines.flatMap pieces ++ pieces rest := by
  induction lines with
  | nil => simp [unlines]
  | cons line lines ih =>
    have htext : (unlines (line :: lines) ++ rest).toList =
        line.toList ++ '\n' :: (unlines lines ++ rest).toList := by
      simp [unlines]
    rw [pieces, htext, List.splitOnP_append_cons _ _ rfl, List.flatMap_cons, List.append_assoc,
      ← ih]
    rfl

theorem pieces_unlines : pieces (unlines lines) = lines.flatMap pieces ++ [[]] := by
  have hbehind := pieces_unlines_append lines ""
  rwa [String.append_empty] at hbehind

/-- A line feed at the end of a text ends its last line. -/
theorem physicalLines_append_feed (text : String) : physicalLines (text ++ "\n") = pieces text := by
  have hpieces : pieces (text ++ "\n") = pieces text ++ [[]] := by
    rw [pieces, String.toList_append]
    exact List.splitOnP_append_cons _ _ rfl
  rw [physicalLines, hpieces, if_pos List.getLast?_concat, List.dropLast_concat]

/-- **The lines of what is written** are those of the written lines, one after the other. -/
theorem physicalLines_unlines : physicalLines (unlines lines) = lines.flatMap pieces := by
  rw [physicalLines, pieces_unlines, if_pos List.getLast?_concat, List.dropLast_concat]

/-! ## Continued lines -/

/-- All texts are on one line each. -/
def OneLines (texts : List String) : Prop := ∀ text ∈ texts, OneLine text

/-- What is continued behind the line ends in some texts, one text after the other. -/
def tails (texts : List String) : List (List Char) := texts.flatMap continuations

section Tails

variable {others : List String}

@[simp] theorem oneLines_nil : OneLines [] := List.forall_mem_nil _

@[simp] theorem oneLines_cons : OneLines (line :: lines) ↔ OneLine line ∧ OneLines lines :=
  List.forall_mem_cons

@[simp] theorem oneLines_append : OneLines (lines ++ others) ↔ OneLines lines ∧ OneLines others :=
  List.forall_mem_append

theorem oneLines_map {α : Type} {items : List α} {write : α → String}
    (h : ∀ item ∈ items, OneLine (write item)) : OneLines (items.map write) :=
  List.forall_mem_map.mpr h

theorem oneLines_flatMap {α : Type} {items : List α} {write : α → List String}
    (h : ∀ item ∈ items, OneLines (write item)) : OneLines (items.flatMap write) :=
  List.forall_mem_flatMap.mpr h

theorem OneLines.indented {indent : String} (h : OneLines lines) (hindent : OneLine indent) :
    OneLines (indented indent lines) := oneLines_map fun line hline => hindent.append (h line hline)

theorem tails_append (lines others : List String) :
    tails (lines ++ others) = tails lines ++ tails others := List.flatMap_append

theorem tails_of_oneLines (h : OneLines lines) : tails lines = [] :=
  List.flatMap_eq_nil_iff.mpr fun line hline => continuations_of_oneLine (h line hline)

/-- What stands in front of a text on its line is not continued. -/
theorem tails_map_append {α : Type} {items : List α} {front back : α → String}
    (hfront : ∀ item ∈ items, OneLine (front item)) :
    tails (items.map fun item => front item ++ back item) = tails (items.map back) := by
  rw [tails, tails, List.flatMap_map, List.flatMap_map]
  exact List.flatMap_congr fun item hitem => continuations_append (hfront item hitem) _

theorem tails_flatMap_congr {α : Type} {items : List α} {write other : α → List String}
    (h : ∀ item ∈ items, tails (write item) = tails (other item)) :
    tails (items.flatMap write) = tails (items.flatMap other) := by
  rw [tails, tails, List.flatMap_assoc, List.flatMap_assoc]
  exact List.flatMap_congr h

end Tails

/-! ## Marks -/

/-- Every line of a text begins with the mark. -/
def Marked (mark text : String) : Prop := ∀ line ∈ physicalLines text, mark.toList <+: line

/-- Whatever is continued behind a line end in the text begins with the mark. -/
def Continues (mark text : String) : Prop := ∀ line ∈ continuations text, mark.toList <+: line

instance (mark text : String) : Decidable (Marked mark text) :=
  inferInstanceAs (Decidable (∀ line ∈ physicalLines text, mark.toList <+: line))

instance (mark text : String) : Decidable (Continues mark text) :=
  inferInstanceAs (Decidable (∀ line ∈ continuations text, mark.toList <+: line))

theorem OneLine.continues (h : OneLine text) (mark : String) : Continues mark text := by
  intro line hline
  rw [continuations_of_oneLine h] at hline
  cases hline

theorem continues_append (h : OneLine text) (mark rest : String) :
    Continues mark (text ++ rest) ↔ Continues mark rest := by
  rw [Continues, continuations_append h, Continues]

theorem pieces_eq_cons (text : String) : ∃ front, pieces text = front :: continuations text := by
  cases hpieces : pieces text with
  | nil => exact absurd hpieces (List.splitOnP_ne_nil _ _)
  | cons front rest => exact ⟨front, by rw [continuations, hpieces]; rfl⟩

/-- A written line that begins with the mark is read as lines with the mark if and only if it is
continued with the mark. -/
theorem forall_mem_pieces_iff (hmark : OneLine mark) (rest : String) :
    (∀ line ∈ pieces (mark ++ rest), mark.toList <+: line) ↔ Continues mark rest := by
  obtain ⟨front, hpieces⟩ := pieces_eq_cons rest
  rw [pieces_append hmark, hpieces, List.modifyHead_cons, List.forall_mem_cons]
  exact and_iff_right (List.prefix_append _ _)

/-- **All lines begin with the mark** if all written lines do and are continued with it. -/
theorem marked_unlines_iff (hmark : OneLine mark) {texts : List String} :
    Marked mark (unlines (texts.map (mark ++ ·))) ↔ ∀ text ∈ texts, Continues mark text := by
  rw [Marked, physicalLines_unlines]
  simp only [List.forall_mem_flatMap, List.forall_mem_map, forall_mem_pieces_iff hmark]

end DartClient.Text
