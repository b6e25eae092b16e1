import Mathlib.Data.List.Basic

/-!
# Legible spellings

Items that are spelled in a row can be told apart if the spelling of each of them tells what it
spells and where it ends. Here a spelling has to do so only in front of a comma or of a closing
parenthesis or bracket, as numbers do, and has to begin with another character. Then a row of
spellings with commas between them, up to what closes it, tells its items and what follows it.

## Main definitions

* `Text.Delimited`: the texts that can follow an item.
* `Text.Legible`: a spelling that tells its item and where it ends.

## Main results

* `Text.toString_injective`: a number is told by its digits.
* `Text.append_inj_of_stops`: characters of one kind end where another kind begins.
* `Text.map_eq_of_listed`: a row of legible spellings tells its items.
-/

namespace DartClient.Text

/-- A number is told by its digits. -/
theorem toString_injective {n m : Nat} (h : toString n = toString m) : n = m := by
  have hdigits : Nat.toDigits 10 n = Nat.toDigits 10 m := by
    rw [← Nat.toList_repr, ← Nat.toList_repr]
    exact congrArg String.toList h
  rw [← Nat.ofDigitChars_ten_toDigits (n := n), hdigits, Nat.ofDigitChars_ten_toDigits]

theorem isDigit_of_mem_toString {n : Nat} : ∀ c ∈ (toString n).toList, c.isDigit = true := by
  intro c hc
  have hspelling : (toString n).toList = Nat.toDigits 10 n := Nat.toList_repr
  rw [hspelling] at hc
  exact Nat.isDigit_of_mem_toDigits (by omega) (by omega) hc

/-- The characters that follow an item of a row. -/
def isDelimiter (c : Char) : Bool := c == ',' || c == ')' || c == ']'

/-- The text begins with a delimiter. -/
def Delimited (text : List Char) : Prop := ∃ c rest, text = c :: rest ∧ isDelimiter c = true

theorem delimited_cons {c : Char} (h : isDelimiter c = true) (rest : List Char) :
    Delimited (c :: rest) := ⟨c, rest, rfl, h⟩

/-- **Characters of one kind end where a character of another kind follows.** -/
theorem append_inj_of_stops {p : Char → Bool} {c c' : Char} {rest rest' : List Char}
    (hc : p c = false) (hc' : p c' = false) : ∀ {run run' : List Char},
    (∀ x ∈ run, p x = true) → (∀ x ∈ run', p x = true) →
      run ++ c :: rest = run' ++ c' :: rest' → run = run' ∧ c :: rest = c' :: rest'
  | [], [], _, _, h => ⟨rfl, h⟩
  | [], x :: run', _, hrun', h => by
    obtain ⟨rfl, -⟩ := List.cons.inj h
    rw [hrun' c List.mem_cons_self] at hc
    cases hc
  | x :: run, [], hrun, _, h => by
    obtain ⟨rfl, -⟩ := List.cons.inj h
    rw [hrun x List.mem_cons_self] at hc'
    cases hc'
  | x :: run, x' :: run', hrun, hrun', h => by
    obtain ⟨rfl, htail⟩ := List.cons.inj h
    obtain ⟨rfl, hrest⟩ := append_inj_of_stops hc hc'
      (fun y hy => hrun y (List.mem_cons_of_mem _ hy))
      (fun y hy => hrun' y (List.mem_cons_of_mem _ hy)) htail
    exact ⟨rfl, hrest⟩

/-- Spellings in a row, with a comma and a blank between them. -/
def listed (spellings : List (List Char)) : List Char := [',', ' '].intercalate spellings

theorem listed_cons (spelling : List Char) (spellings : List (List Char)) :
    listed (spelling :: spellings) =
      spelling ++ spellings.flatMap fun other => ',' :: ' ' :: other := by
  induction spellings generalizing spelling with
  | nil => rw [listed, List.intercalate_singleton, List.flatMap_nil, List.append_nil]
  | cons next spellings ih =>
    rw [listed, List.intercalate_cons_cons, ← listed, ih, List.flatMap_cons, List.append_assoc]
    rfl

variable {α β : Type} {D : α → Prop} {spell : α → List Char} {f : α → β}

/-- In front of a delimiter, the spelling tells where it ends and what it spells, as far as `f` tells
the items that satisfy `D` apart. -/
def Legible (D : α → Prop) (spell : α → List Char) (f : α → β) (a : α) : Prop :=
  ∀ a' text text', D a' → Delimited text → Delimited text' →
    spell a ++ text = spell a' ++ text' → f a = f a' ∧ text = text'

section Row

variable {closing : Char} (hclosing : isDelimiter closing = true) (hcomma : closing ≠ ',')

theorem delimited_tail (hclosing : isDelimiter closing = true) (spellings : List (List Char))
    (text : List Char) :
    Delimited ((spellings.flatMap fun other => ',' :: ' ' :: other) ++ closing :: text) := by
  cases spellings with
  | nil => exact delimited_cons hclosing text
  | cons spelling spellings => exact delimited_cons rfl _

include hclosing hcomma in
/-- Items behind the first one: each of them has a comma in front. -/
theorem map_eq_of_tails : ∀ {as as' : List α} {text text' : List Char},
    (∀ a ∈ as, Legible D spell f a) → (∀ a ∈ as', D a) →
      ((as.map spell).flatMap fun other => ',' :: ' ' :: other) ++ closing :: text =
        ((as'.map spell).flatMap fun other => ',' :: ' ' :: other) ++ closing :: text' →
      as.map f = as'.map f ∧ text = text'
  | [], [], _, _, _, _, h => ⟨rfl, (List.cons.inj h).2⟩
  | [], a' :: as', _, _, _, _, h => absurd (List.cons.inj h).1 hcomma
  | a :: as, [], _, _, _, _, h => absurd (List.cons.inj h).1.symm hcomma
  | a :: as, a' :: as', text, text', has, has', h => by
    have hsplit : spell a ++ (((as.map spell).flatMap fun other => ',' :: ' ' :: other) ++
        closing :: text) = spell a' ++ (((as'.map spell).flatMap fun other => ',' :: ' ' :: other) ++
        closing :: text') := by
      simpa using h
    obtain ⟨ha, htail⟩ := has a List.mem_cons_self a' _ _ (has' a' List.mem_cons_self)
      (delimited_tail hclosing _ text) (delimited_tail hclosing _ text') hsplit
    obtain ⟨hmap, htext⟩ := map_eq_of_tails (fun b hb => has b (List.mem_cons_of_mem _ hb))
      (fun b hb => has' b (List.mem_cons_of_mem _ hb)) htail
    exact ⟨by rw [List.map_cons, List.map_cons, ha, hmap], htext⟩

include hclosing hcomma in
/-- **A row of legible spellings tells its items**, and what follows the character that closes it. -/
theorem map_eq_of_listed (hstart : ∀ a, D a → ∃ c rest, spell a = c :: rest ∧ isDelimiter c = false)
    {as as' : List α} {text text' : List Char} (has : ∀ a ∈ as, D a ∧ Legible D spell f a)
    (has' : ∀ a ∈ as', D a)
    (h : listed (as.map spell) ++ closing :: text = listed (as'.map spell) ++ closing :: text') :
    as.map f = as'.map f ∧ text = text' := by
  -- An empty row is closed at once, while an item does not begin with what closes a row.
  have hempty : ∀ {a : α} {tail text text' : List Char}, D a →
      closing :: text ≠ spell a ++ tail ++ closing :: text' := by
    intro a tail text text' ha heq
    obtain ⟨c, rest, hspell, hc⟩ := hstart a ha
    rw [hspell] at heq
    obtain ⟨rfl, -⟩ := List.cons.inj heq
    rw [hclosing] at hc
    cases hc
  cases as with
  | nil =>
    cases as' with
    | nil => exact ⟨rfl, (List.cons.inj h).2⟩
    | cons a' as' =>
      rw [List.map_cons, listed_cons] at h
      exact absurd h (hempty (has' a' List.mem_cons_self))
  | cons a as =>
    cases as' with
    | nil =>
      rw [List.map_cons, listed_cons] at h
      exact absurd h.symm (hempty (has a List.mem_cons_self).1)
    | cons a' as' =>
      rw [List.map_cons, listed_cons, List.map_cons, listed_cons, List.append_assoc,
        List.append_assoc] at h
      obtain ⟨ha, htail⟩ := (has a List.mem_cons_self).2 a' _ _ (has' a' List.mem_cons_self)
        (delimited_tail hclosing _ text) (delimited_tail hclosing _ text') h
      obtain ⟨hmap, htext⟩ := map_eq_of_tails hclosing hcomma
        (fun b hb => (has b (List.mem_cons_of_mem _ hb)).2)
        (fun b hb => has' b (List.mem_cons_of_mem _ hb)) htail
      exact ⟨by rw [List.map_cons, List.map_cons, ha, hmap], htext⟩

end Row

end DartClient.Text
