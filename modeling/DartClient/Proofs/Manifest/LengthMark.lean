import DartClient.Manifest.Resolve
import DartClient.Proofs.Text.Legible

/-!
# Length marks in the text of a type

The text of a typed list ends in a mark with its length, and the text of a type around it keeps the
mark inside. The question mark of a type whose values may be absent goes in front of the first
mark. So without the marks it stands behind everything else if nothing but question marks stands
behind the first mark, and in the midst of the text otherwise.

The texts of types are put together from pieces: marks, and plain text without a slash. On texts of
this kind all that is said here can be read off the pieces.

## Main definitions

* `unmarked`: a text without its marks.
* `behindMark`: what stands behind the first mark of a text, without marks.
* `Piece`: the pieces of a text, and `Piece.behind`, the same for pieces.

## Main results

* `unmarked_nullableText_iff`: where the question mark goes.
* `behindMark_textOf`, `nullableText_textOf`: how to read this off the pieces.
-/

namespace DartClient

/-! ## Texts without marks -/

/-- What stands behind the end of a mark, for a text from inside the mark on. -/
def markEnd? : List Char → Option (List Char)
  | [] => none
  | '*' :: '/' :: rest => some rest
  | _ :: rest => markEnd? rest

theorem length_lt_of_markEnd? {text rest : List Char} (h : markEnd? text = some rest) :
    rest.length < text.length := by
  fun_induction markEnd? text with
  | case1 => cases h
  | case2 rest =>
    obtain rfl := Option.some.inj h
    simp +arith
  | case3 c text _ ih =>
    have := ih h
    simp +arith
    omega

/-- A text without its marks. What begins like a mark and does not end is none. -/
def unmarked : List Char → List Char
  | [] => []
  | ' ' :: '/' :: '*' :: text =>
    match _h : markEnd? text with
    | some rest => unmarked rest
    | none => ' ' :: '/' :: '*' :: text
  | c :: text => c :: unmarked text
  termination_by text => text.length
  decreasing_by
    · have := length_lt_of_markEnd? ‹_›
      simp +arith
      omega
    · simp +arith

/-- What stands behind the first mark of a text, without marks. -/
def behindMark (text : List Char) : List Char :=
  match splitLengthMark text with
  | some (_, tail) => unmarked (' ' :: '/' :: '*' :: tail)
  | none => []

/-- The text of a type whose values may be absent. -/
def nullableText (text : List Char) : List Char :=
  match splitLengthMark text with
  | some (head, tail) => head ++ '?' :: ' ' :: '/' :: '*' :: tail
  | none => text ++ ['?']

theorem toList_nullableType (targetType : String) :
    (nullableType targetType).toList = nullableText targetType.toList := by
  unfold nullableType nullableText
  cases splitLengthMark targetType.toList with
  | none => rw [String.toList_append]; rfl
  | some parts =>
    simp only [String.toList_append, String.toList_ofList, List.append_assoc]
    rfl

/-! ## The first mark -/

section Texts

variable {c : Char} {text head tail rest : List Char}

/-- A mark begins at the beginning of the text. -/
def OpensMark (text : List Char) : Prop := ∃ tail, text = ' ' :: '/' :: '*' :: tail

theorem splitLengthMark_cons (h : ¬ OpensMark (c :: text)) : splitLengthMark (c :: text) =
    (splitLengthMark text).map fun (head, tail) => (c :: head, tail) := by
  rw [splitLengthMark]
  exact fun tail hc htext => h ⟨tail, by rw [hc, htext]⟩

theorem unmarked_cons (h : ¬ OpensMark (c :: text)) :
    unmarked (c :: text) = c :: unmarked text := by
  rw [unmarked]
  exact fun tail hc htext => h ⟨tail, by rw [hc, htext]⟩

theorem splitLengthMark_cons_eq_none_iff : splitLengthMark (c :: text) = none ↔
    ¬ OpensMark (c :: text) ∧ splitLengthMark text = none := by
  by_cases h : OpensMark (c :: text)
  · obtain ⟨tail, htail⟩ := h
    rw [htail]
    simp [splitLengthMark, OpensMark]
  · rw [splitLengthMark_cons h, Option.map_eq_none_iff]
    simp [h]

/-- A text is split where a mark begins, and none begins before. -/
theorem eq_of_splitLengthMark (h : splitLengthMark text = some (head, tail)) :
    splitLengthMark head = none ∧ text = head ++ ' ' :: '/' :: '*' :: tail := by
  induction text generalizing head with
  | nil => cases h
  | cons c text ih =>
    by_cases hopens : OpensMark (c :: text)
    · obtain ⟨rest, hrest⟩ := hopens
      rw [hrest] at h ⊢
      obtain ⟨rfl, rfl⟩ := Prod.mk.inj (Option.some.inj h)
      exact ⟨rfl, rfl⟩
    · rw [splitLengthMark_cons hopens] at h
      obtain ⟨⟨head', tail'⟩, hsplit, hparts⟩ := Option.map_eq_some_iff.mp h
      obtain ⟨rfl, rfl⟩ := Prod.mk.inj hparts
      obtain ⟨hhead, rfl⟩ := ih hsplit
      refine ⟨splitLengthMark_cons_eq_none_iff.mpr ⟨fun hmark => hopens ?_, hhead⟩, rfl⟩
      obtain ⟨rest, hrest⟩ := hmark
      exact ⟨_, congrArg (· ++ ' ' :: '/' :: '*' :: tail') hrest⟩

/-- A character that is not within the beginning of a mark does not complete one. -/
theorem not_opensMark_append (hslash : c ≠ '/') (hstar : c ≠ '*') {first : Char}
    (h : ¬ OpensMark (first :: head)) : ¬ OpensMark (first :: (head ++ c :: rest)) := by
  rintro ⟨tail, htail⟩
  match head with
  | [] => exact hslash (List.cons.inj (List.cons.inj htail).2).1
  | [second] => exact hstar (List.cons.inj (List.cons.inj (List.cons.inj htail).2).2).1
  | second :: third :: head =>
    obtain ⟨hfirst, htail⟩ := List.cons.inj htail
    obtain ⟨hsecond, htail⟩ := List.cons.inj htail
    obtain ⟨hthird, -⟩ := List.cons.inj htail
    exact h ⟨head, by rw [hfirst, hsecond, hthird]⟩

/-- Text in which no mark begins stays as it is. -/
theorem unmarked_append (hhead : splitLengthMark head = none) (hslash : c ≠ '/')
    (hstar : c ≠ '*') : unmarked (head ++ c :: rest) = head ++ unmarked (c :: rest) := by
  induction head with
  | nil => rfl
  | cons first head ih =>
    obtain ⟨hopens, hhead⟩ := splitLengthMark_cons_eq_none_iff.mp hhead
    rw [List.cons_append, unmarked_cons (not_opensMark_append hslash hstar hopens), ih hhead,
      List.cons_append]

theorem unmarked_eq_self (h : splitLengthMark text = none) : unmarked text = text := by
  induction text with
  | nil => rw [unmarked]
  | cons c text ih =>
    obtain ⟨hopens, htext⟩ := splitLengthMark_cons_eq_none_iff.mp h
    rw [unmarked_cons hopens, ih htext]

theorem not_opensMark_of_ne (h : c ≠ ' ') : ¬ OpensMark (c :: text) := by
  rintro ⟨tail, htail⟩
  exact h (List.cons.inj htail).1

/-- A character can be moved past a text exactly if the text is made of it. -/
theorem cons_eq_append_singleton_iff : c :: text = text ++ [c] ↔ ∀ other ∈ text, other = c := by
  induction text with
  | nil => simp
  | cons first text ih =>
    rw [List.cons_append, List.cons.injEq, List.forall_mem_cons]
    constructor
    · rintro ⟨rfl, h⟩
      exact ⟨rfl, ih.mp h⟩
    · rintro ⟨rfl, h⟩
      exact ⟨rfl, ih.mpr h⟩

/-- **Where the question mark goes.** Without marks, the text of a type whose values may be absent
is the text of the type and a question mark exactly if only question marks stand behind the first
mark. -/
theorem unmarked_nullableText_iff (text : List Char) :
    unmarked (nullableText text) = unmarked text ++ ['?'] ↔ ∀ c ∈ behindMark text, c = '?' := by
  unfold nullableText behindMark
  cases hsplit : splitLengthMark text with
  | none =>
    rw [unmarked_append hsplit (by decide) (by decide), unmarked_eq_self hsplit,
      unmarked_cons (not_opensMark_of_ne (by decide))]
    simp [unmarked]
  | some parts =>
    obtain ⟨head, tail⟩ := parts
    obtain ⟨hhead, rfl⟩ := eq_of_splitLengthMark hsplit
    simp only
    rw [unmarked_append hhead (by decide) (by decide),
      unmarked_append hhead (by decide) (by decide),
      unmarked_cons (not_opensMark_of_ne (by decide)), List.append_assoc,
      List.append_cancel_left_eq, cons_eq_append_singleton_iff]

end Texts

/-! ## Texts from pieces -/

/-- A piece of the text of a type. -/
inductive Piece where
  /-- A text without a slash. -/
  | plain (text : List Char) (h : '/' ∉ text)
  /-- The mark with a length. -/
  | mark (length : Nat)

namespace Piece

/-- What stands inside of a mark, up to its end. -/
def markBody (length : Nat) : List Char := " length: ".toList ++ (toString length).toList ++ [' ']

/-- The text of a piece. -/
def chars : Piece → List Char
  | .plain text _ => text
  | .mark length => ' ' :: '/' :: '*' :: (markBody length ++ ['*', '/'])

/-- The text of a piece without marks. -/
def plainText : Piece → List Char
  | .plain text _ => text
  | .mark _ => []

/-- Whether a piece is a mark. -/
def isMark : Piece → Bool
  | .plain _ _ => false
  | .mark _ => true

/-- The text of pieces. -/
def textOf (pieces : List Piece) : List Char := pieces.flatMap chars

/-- The text of pieces without marks. -/
def plainTextOf (pieces : List Piece) : List Char := pieces.flatMap plainText

/-- The pieces behind the first mark. -/
def behind : List Piece → List Piece
  | [] => []
  | .plain _ _ :: pieces => behind pieces
  | .mark _ :: pieces => pieces

/-- The pieces with a question mark in front of the first mark, or else at the end. -/
def nullable : List Piece → List Piece
  | [] => [.plain ['?'] (by decide)]
  | .plain text h :: pieces => .plain text h :: nullable pieces
  | .mark length :: pieces => .plain ['?'] (by decide) :: .mark length :: pieces

variable {c : Char} {head rest : List Char}

theorem star_not_mem_markBody (length : Nat) : '*' ∉ markBody length := by
  have hdigits : '*' ∉ (toString length).toList :=
    fun hmem => absurd (Text.isDigit_of_mem_toString _ hmem) (by decide)
  unfold markBody
  rw [List.mem_append, List.mem_append]
  rintro ((hlabel | hmem) | hspace)
  · exact absurd hlabel (by decide)
  · exact hdigits hmem
  · exact absurd hspace (by decide)

theorem markEnd?_append {body : List Char} (h : '*' ∉ body) :
    markEnd? (body ++ '*' :: '/' :: rest) = some rest := by
  induction body with
  | nil => rfl
  | cons c body ih =>
    have hc : c ≠ '*' := fun hc => h (hc ▸ List.mem_cons_self)
    rw [List.cons_append, markEnd?, ih fun hmem => h (List.mem_cons_of_mem _ hmem)]
    exact fun _ hstar => absurd hstar hc

/-- The text of pieces does not begin with a slash. -/
theorem textOf_ne_slash_cons : ∀ (pieces : List Piece) (text : List Char),
    textOf pieces ≠ '/' :: text
  | [], _ => fun h => by cases h
  | .plain [] _ :: pieces, text => textOf_ne_slash_cons pieces text
  | .plain (_ :: _) hslash :: _, _ => fun h => hslash ((List.cons.inj h).1 ▸ List.mem_cons_self)
  | .mark _ :: _, _ => fun h => absurd (List.cons.inj h).1 (by decide)

theorem not_opensMark_of_plain (hslash : '/' ∉ c :: head) (hrest : ∀ text, rest ≠ '/' :: text) :
    ¬ OpensMark (c :: (head ++ rest)) := by
  rintro ⟨tail, htail⟩
  obtain ⟨-, htail⟩ := List.cons.inj htail
  cases head with
  | nil => exact hrest _ htail
  | cons second head =>
    refine hslash (List.mem_cons_of_mem _ ?_)
    rw [(List.cons.inj htail).1]
    exact List.mem_cons_self

theorem splitLengthMark_append (hslash : '/' ∉ head) (hrest : ∀ text, rest ≠ '/' :: text) :
    splitLengthMark (head ++ rest) =
      (splitLengthMark rest).map fun (front, tail) => (head ++ front, tail) := by
  induction head with
  | nil => simp
  | cons c head ih =>
    rw [List.cons_append, splitLengthMark_cons (not_opensMark_of_plain hslash hrest),
      ih (fun hmem => hslash (List.mem_cons_of_mem _ hmem)), Option.map_map]
    rfl

theorem unmarked_plain_append (hslash : '/' ∉ head) (hrest : ∀ text, rest ≠ '/' :: text) :
    unmarked (head ++ rest) = head ++ unmarked rest := by
  induction head with
  | nil => rfl
  | cons c head ih =>
    rw [List.cons_append, unmarked_cons (not_opensMark_of_plain hslash hrest),
      ih (fun hmem => hslash (List.mem_cons_of_mem _ hmem)), List.cons_append]

theorem textOf_mark_cons (length : Nat) (pieces : List Piece) :
    textOf (.mark length :: pieces) =
      ' ' :: '/' :: '*' :: (markBody length ++ '*' :: '/' :: textOf pieces) := by
  simp [textOf, chars]

/-- The text of a typed list. -/
theorem toList_typedList (list : String) (length : Nat) :
    (list ++ " /* length: " ++ toString length ++ " */").toList =
      list.toList ++ (mark length).chars := by
  have hopening : " /* length: ".toList = ' ' :: '/' :: '*' :: " length: ".toList := by decide
  have hclosing : " */".toList = [' ', '*', '/'] := by decide
  rw [String.toList_append, String.toList_append, String.toList_append, hopening, hclosing]
  unfold chars markBody
  simp only [List.append_assoc, List.cons_append, List.nil_append]

/-- **Without marks** the text of pieces is their plain text. -/
theorem unmarked_textOf : ∀ pieces : List Piece, unmarked (textOf pieces) = plainTextOf pieces
  | [] => by
    rw [textOf, List.flatMap_nil, unmarked]
    rfl
  | .plain head h :: pieces => by
    show unmarked (head ++ textOf pieces) = head ++ plainTextOf pieces
    rw [unmarked_plain_append h (textOf_ne_slash_cons pieces), unmarked_textOf pieces]
  | .mark length :: pieces => by
    have hend : markEnd? (markBody length ++ '*' :: '/' :: textOf pieces) =
        some (textOf pieces) := markEnd?_append (star_not_mem_markBody length)
    rw [textOf_mark_cons, unmarked]
    split
    case h_1 rest hrest =>
      obtain rfl := Option.some.inj (hend.symm.trans hrest)
      exact unmarked_textOf pieces
    case h_2 hnone => cases hend.symm.trans hnone

theorem splitLengthMark_mark (length : Nat) (pieces : List Piece) :
    splitLengthMark (textOf (.mark length :: pieces)) =
      some ([], markBody length ++ '*' :: '/' :: textOf pieces) := by
  rw [textOf_mark_cons, splitLengthMark]

/-- **What stands behind the first mark** is the plain text of the pieces there. -/
theorem behindMark_textOf : ∀ pieces : List Piece,
    behindMark (textOf pieces) = plainTextOf (behind pieces)
  | [] => rfl
  | .plain head h :: pieces => by
    rw [behind, ← behindMark_textOf pieces]
    show behindMark (head ++ textOf pieces) = _
    unfold behindMark
    rw [splitLengthMark_append h (textOf_ne_slash_cons pieces)]
    cases splitLengthMark (textOf pieces) <;> rfl
  | .mark length :: pieces => by
    unfold behindMark
    rw [splitLengthMark_mark]
    simp only
    rw [← textOf_mark_cons, unmarked_textOf]
    rfl

/-- **The question mark** goes in front of the piece that is the first mark. -/
theorem nullableText_textOf : ∀ pieces : List Piece,
    nullableText (textOf pieces) = textOf (nullable pieces)
  | [] => rfl
  | .plain head h :: pieces => by
    have ih := nullableText_textOf pieces
    show nullableText (head ++ textOf pieces) = head ++ textOf (nullable pieces)
    rw [← ih]
    unfold nullableText
    rw [splitLengthMark_append h (textOf_ne_slash_cons pieces)]
    cases splitLengthMark (textOf pieces) with
    | none => exact List.append_assoc _ _ _
    | some parts => exact List.append_assoc _ _ _
  | .mark length :: pieces => by
    unfold nullableText
    rw [splitLengthMark_mark]
    simp only [List.nil_append]
    rw [← textOf_mark_cons]
    rfl

/-! ## Pieces in a row -/

@[simp] theorem textOf_append (pieces pieces' : List Piece) :
    textOf (pieces ++ pieces') = textOf pieces ++ textOf pieces' := List.flatMap_append

/-- Pieces that end in a plain text have it behind the first mark, if they have a mark. -/
theorem behind_concat_plain (text : List Char) (h : '/' ∉ text) : ∀ pieces : List Piece,
    behind (pieces ++ [.plain text h]) =
      if pieces.any isMark then behind pieces ++ [.plain text h] else []
  | [] => rfl
  | .plain _ _ :: pieces => behind_concat_plain text h pieces
  | .mark _ :: _ => rfl

/-- Neither the marks nor what stands behind the first one is changed by the question mark. -/
theorem any_isMark_nullable : ∀ pieces : List Piece,
    (nullable pieces).any isMark = pieces.any isMark
  | [] => rfl
  | .plain _ _ :: pieces => any_isMark_nullable pieces
  | .mark _ :: _ => rfl

theorem behind_nullable : ∀ pieces : List Piece, behind (nullable pieces) = behind pieces
  | [] => rfl
  | .plain _ _ :: pieces => behind_nullable pieces
  | .mark _ :: _ => rfl

/-- Rows of pieces with commas between them, enclosed in two texts. -/
def enclosed (opening closing : List Char) (hopening : '/' ∉ opening) (hclosing : '/' ∉ closing)
    (rows : List (List Piece)) : List Piece :=
  .plain opening hopening ::
    ([.plain [',', ' '] (by decide)].intercalate rows ++ [.plain closing hclosing])

theorem textOf_intercalate (separator : List Piece) (rows : List (List Piece)) :
    textOf (separator.intercalate rows) = (textOf separator).intercalate (rows.map textOf) := by
  induction rows with
  | nil => rfl
  | cons row rows ih =>
    cases rows with
    | nil => simp [List.intercalate_singleton]
    | cons next rows =>
      rw [List.intercalate_cons_cons, textOf_append, textOf_append, ih]
      simp only [List.map_cons, List.intercalate_cons_cons]

theorem any_isMark_intercalate {separator : List Piece} (h : separator.any isMark = false)
    (rows : List (List Piece)) :
    (separator.intercalate rows).any isMark = rows.any (·.any isMark) := by
  induction rows with
  | nil => rfl
  | cons row rows ih =>
    cases rows with
    | nil => simp [List.intercalate_singleton]
    | cons next rows =>
      rw [List.intercalate_cons_cons, List.any_append, List.any_append, ih, h, Bool.or_false]
      rfl

variable {opening closing : List Char} {hopening : '/' ∉ opening} {hclosing : '/' ∉ closing}

theorem textOf_enclosed (rows : List (List Piece)) :
    textOf (enclosed opening closing hopening hclosing rows) =
      opening ++ [',', ' '].intercalate (rows.map textOf) ++ closing := by
  show opening ++ textOf (_ ++ _) = _
  rw [textOf_append, textOf_intercalate, List.append_assoc]
  simp [textOf, chars]

theorem any_isMark_enclosed (rows : List (List Piece)) :
    (enclosed opening closing hopening hclosing rows).any isMark = rows.any (·.any isMark) := by
  rw [enclosed, List.any_cons, List.any_append, any_isMark_intercalate rfl]
  simp [isMark]

/-- Behind a mark inside of something enclosed stands at least the end of it. -/
theorem behind_enclosed {opening closing : List Char} (hopening : '/' ∉ opening)
    (hclosing : '/' ∉ closing) (rows : List (List Piece)) :
    ∃ front, behind (enclosed opening closing hopening hclosing rows) =
      if rows.any (·.any isMark) then front ++ [.plain closing hclosing] else [] := by
  refine ⟨behind ([.plain [',', ' '] (by decide)].intercalate rows), ?_⟩
  rw [enclosed, behind, behind_concat_plain, any_isMark_intercalate rfl]

end Piece

end DartClient
