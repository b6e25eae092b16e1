import DartClient.Json.Reader
import DartClient.Page.Program
import DartClient.Proofs.Text.Words

/-!
# Texts between single quotes

A text of generated code stands between single quotes on one line. The language reads it character
by character: a backslash begins an escape, a quote ends the text, a dollar sign begins an
interpolation, and a line feed or a carriage return is an error, also behind a backslash.

A text is escaped character by character; replacing backslashes first and then each of the other
special characters in the whole text comes to the same, since only the first of these replacements
looks at backslashes. What one character is escaped to is read as that character, whatever comes
behind it. The carriage return alone is not escaped, so a text that has one is not read at all.
Every other text is read back as it was, up to the quote that stands behind it; this goes for the
texts of seeds, the messages of errors and the name and version of a program.

## Main definitions

* `readText?`: the text in front of the next quote, and what stands behind that quote.
* `firstText?`: the first text in single quotes of some code.
* `replaceEach`: a text with a character replaced wherever it stands.

## Main results

* `escapeText_eq_replaceEach`: a text is escaped by replacing one special character after the other.
* `readText?_escapeText`: an escaped text is read back if it has no carriage return.
* `readText?_escapeText_and_quoted`: this is so wherever texts are put in single quotes.
-/

namespace DartClient

/-! ## Reading -/

/-- Where a reader of a text stands. -/
inductive TextMode where
  /-- Between two characters. -/
  | plain
  /-- Behind a backslash. -/
  | escape
  /-- Behind a backslash and `u`. -/
  | unicode
  /-- In a code point that has that many digits left, with the value of those before. -/
  | digits (left : Nat) (code : Nat)
  /-- In a code point in braces that may have that many more digits, with the value so far. -/
  | braced (left : Nat) (code : Nat)
  deriving DecidableEq, Repr

/-- The character of an escape by a single character. -/
def escapedChar (c : Char) : Char :=
  if c = 'n' then '\n' else if c = 'r' then '\r' else if c = 't' then '\t'
  else if c = 'b' then '\x08' else if c = 'f' then '\x0c' else if c = 'v' then '\x0b' else c

/-- The character of a code point, if it is one. -/
def charOfCode? (code : Nat) : Option Char :=
  if code.isValidChar then some (Char.ofNat code) else none

/-- The characters of a text up to the quote that ends it, and what stands behind the quote, read
from some place on. There is none if the text does not end or has an interpolation or an error. -/
def readChars? : TextMode → List Char → Option (List Char × List Char)
  | _, [] => none
  | .plain, c :: rest =>
    if c = '\'' then some ([], rest)
    else if c = '\\' then readChars? .escape rest
    else if c ∈ ['$', '\n', '\r'] then none
    else (readChars? .plain rest).map fun (text, rest) => (c :: text, rest)
  | .escape, c :: rest =>
    if c ∈ ['\n', '\r'] then none
    else if c = 'x' then readChars? (.digits 2 0) rest
    else if c = 'u' then readChars? .unicode rest
    else (readChars? .plain rest).map fun (text, rest) => (escapedChar c :: text, rest)
  | .unicode, c :: rest =>
    if c = '\x7b' then readChars? (.braced 6 0) rest
    else do readChars? (.digits 3 (← Json.hexValue? c)) rest
  | .digits left code, c :: rest => do
    let code := code * 16 + (← Json.hexValue? c)
    if 1 < left then readChars? (.digits (left - 1) code) rest
    else
      let read ← charOfCode? code
      (readChars? .plain rest).map fun (text, rest) => (read :: text, rest)
  | .braced left code, c :: rest =>
    if c = '\x7d' then do
      -- There has to be a digit between the braces.
      let read ← if left < 6 then charOfCode? code else none
      (readChars? .plain rest).map fun (text, rest) => (read :: text, rest)
    else if left = 0 then none
    else do readChars? (.braced (left - 1) (code * 16 + (← Json.hexValue? c))) rest

/-- The text in front of the next quote, and what stands behind the quote. -/
def readText? (code : String) : Option (String × String) :=
  (readChars? .plain code.toList).map fun (text, rest) => (.ofList text, .ofList rest)

/-- The first text in single quotes of some code. -/
def firstText? (code : String) : Option String :=
  (readChars? .plain (code.toList.dropWhile (· ≠ '\'')).tail).map fun (text, _) => .ofList text

/-! ## Escaping -/

/-- A backslash and a character that stands for itself or for another one are read as that one. -/
theorem readChars?_escape {c : Char} (hline : c ∉ ['\n', '\r']) (hcode : c ∉ ['x', 'u'])
    (rest : List Char) : readChars? .plain ('\\' :: c :: rest) =
      (readChars? .plain rest).map fun (text, rest) => (escapedChar c :: text, rest) := by
  simp only [List.mem_cons, List.not_mem_nil, or_false, not_or] at hcode
  rw [readChars?, if_neg (by decide), if_pos rfl, readChars?, if_neg hline, if_neg hcode.1,
    if_neg hcode.2]

/-- **What a character is escaped to is read as the character**, whatever comes behind, except for a
carriage return, which is not read. -/
theorem readChars?_escapeDartChar (c : Char) (rest : List Char) :
    readChars? .plain (escapeDartChar c ++ rest) =
      if c = '\r' then none
      else (readChars? .plain rest).map fun (text, rest) => (c :: text, rest) := by
  by_cases hescaped : c ∈ ['\\', '\'', '$', '\n']
  · -- The four characters that are escaped are read behind their backslash.
    simp only [List.mem_cons, List.not_mem_nil, or_false] at hescaped
    rcases hescaped with rfl | rfl | rfl | rfl <;>
      exact readChars?_escape (by decide) (by decide) rest
  · simp only [List.mem_cons, List.not_mem_nil, or_false, not_or] at hescaped
    obtain ⟨hbackslash, hquote, hdollar, hline⟩ := hescaped
    have hself : escapeDartChar c = [c] := by
      rw [escapeDartChar, if_neg hbackslash, if_neg hquote, if_neg hdollar, if_neg hline]
    rw [hself, List.singleton_append, readChars?, if_neg hquote, if_neg hbackslash]
    by_cases hreturn : c = '\r'
    · rw [if_pos hreturn, if_pos (by simp [hreturn])]
    · rw [if_neg hreturn, if_neg (by simp [hdollar, hline, hreturn])]

/-- **An escaped text is read back** up to the quote that ends it. -/
theorem readChars?_flatMap_escapeDartChar (text rest : List Char) :
    readChars? .plain (text.flatMap escapeDartChar ++ '\'' :: rest) =
      if '\r' ∈ text then none else some (text, rest) := by
  induction text with
  | nil => rfl
  | cons c text ih =>
    rw [List.flatMap_cons, List.append_assoc, readChars?_escapeDartChar, ih]
    by_cases hreturn : c = '\r'
    · rw [if_pos hreturn, if_pos (List.mem_cons.mpr (.inl hreturn.symm))]
    · rw [if_neg hreturn]
      by_cases htext : '\r' ∈ text
      · rw [if_pos htext, if_pos (List.mem_cons_of_mem c htext), Option.map_none]
      · have hnone : '\r' ∉ c :: text := List.not_mem_cons_of_ne_of_not_mem (Ne.symm hreturn) htext
        rw [if_neg htext, if_neg hnone, Option.map_some]

/-- **A text is read back if it has no carriage return**, and otherwise it is not read. -/
theorem readText?_escapeText (text rest : String) :
    readText? (escapeText text ++ "'" ++ rest) =
      if '\r' ∈ text.toList then none else some (text, rest) := by
  have hcode : (escapeText text ++ "'" ++ rest).toList =
      text.toList.flatMap escapeDartChar ++ '\'' :: rest.toList := by
    simp [escapeText]
  rw [readText?, hcode, readChars?_flatMap_escapeDartChar]
  split
  · rfl
  · exact congrArg some (Prod.ext String.ofList_toList String.ofList_toList)

/-! ## One character after the other -/

/-- A text with another one in the place of each occurrence of a character. -/
def replaceEach (c : Char) (other text : String) : String :=
  .ofList (text.toList.flatMap fun d => if d = c then other.toList else [d])

/-- **A text is escaped by replacing one special character after the other**, the backslash first,
since all replacements put in backslashes. -/
theorem escapeText_eq_replaceEach (text : String) : escapeText text =
    replaceEach '\n' "\\n" (replaceEach '$' "\\$"
      (replaceEach '\'' "\\'" (replaceEach '\\' "\\\\" text))) := by
  -- The replacements together are one step for each character, so one character is enough.
  simp only [replaceEach, escapeText, String.toList_ofList, List.flatMap_assoc]
  refine congrArg (fun step => String.ofList (text.toList.flatMap step)) (funext fun c => ?_)
  unfold escapeDartChar
  by_cases hescaped : c ∈ ['\\', '\'', '$', '\n']
  · simp only [List.mem_cons, List.not_mem_nil, or_false] at hescaped
    rcases hescaped with rfl | rfl | rfl | rfl <;> decide
  · simp only [List.mem_cons, List.not_mem_nil, or_false, not_or] at hescaped
    simp [hescaped]

/-! ## Texts in code -/

/-- The first text of some code is the one in the first quotes. Code is put together of pieces that
end or begin with the quotes. -/
theorem firstText?_quoted {front head : String} (hfront : '\'' ∉ front.toList)
    (hhead : '\'' ∉ head.toList) (text rest : String) :
    firstText? (front ++ (head ++ "'") ++ escapeText text ++ ("'" ++ rest)) =
      if '\r' ∈ text.toList then none else some text := by
  have hcode : (front ++ (head ++ "'") ++ escapeText text ++ ("'" ++ rest)).toList =
      (front.toList ++ head.toList) ++
        '\'' :: (text.toList.flatMap escapeDartChar ++ '\'' :: rest.toList) := by
    simp [escapeText]
  have hdrop (behind : List Char) :
      ((front.toList ++ head.toList) ++ '\'' :: behind).dropWhile (· ≠ '\'') =
        '\'' :: behind := by
    rw [List.dropWhile_append_of_pos, List.dropWhile_cons_of_neg (by simp)]
    intro c hc
    refine decide_eq_true ?_
    rintro rfl
    exact (List.mem_append.mp hc).elim hfront hhead
  rw [firstText?, hcode, hdrop, List.tail_cons, readChars?_flatMap_escapeDartChar]
  split
  · rfl
  · exact congrArg some String.ofList_toList

theorem errorMessageLine_mem_errorsLines {program : Idl.Program} {error : Idl.ErrorCode}
    (herror : error ∈ program.errors) : errorMessageLine error ∈ errorsLines program := by
  have hsorted : error ∈ sortedErrors program.errors := List.mem_mergeSort.mpr herror
  simp only [errorsLines, List.mem_append]
  exact .inl (.inr (List.mem_map_of_mem hsorted))

/-- The message of an error is the first text of its line, since the constant has no quotes. -/
theorem firstText?_errorMessageLine (error : Idl.ErrorCode) :
    firstText? (errorMessageLine error) =
      if '\r' ∈ error.message.toList then none else some error.message := by
  have hconstant : '\'' ∉ (errorConstant error.name).toList :=
    Text.not_mem_shoutySnake (by decide) (by decide) (by decide) (by decide)
  have hfront : '\'' ∉ ("    " ++ errorConstant error.name).toList := by
    simpa using hconstant
  have hhead : '\'' ∉ ": ".toList := by decide
  exact firstText?_quoted hfront hhead error.message ","

/-- The line of a constant text in a class. -/
def textConstantLine (name text : String) : String :=
  "  static const String " ++ name ++ " = '" ++ escapeText text ++ "';"

theorem firstText?_textConstantLine {name : String} (hname : '\'' ∉ name.toList) (text : String) :
    firstText? (textConstantLine name text) =
      if '\r' ∈ text.toList then none else some text := by
  have hfront : '\'' ∉ ("  static const String " ++ name).toList := by
    rw [String.toList_append, List.mem_append, not_or]
    exact ⟨by decide, hname⟩
  have hhead : '\'' ∉ " = ".toList := by decide
  exact firstText?_quoted hfront hhead text ";"

/-- **Texts in single quotes are read back.** A text is escaped by replacing its special characters
one after the other. With a quote behind it, it is read up to that quote and gives the text back,
whatever stands behind, if it has no carriage return; otherwise it is not read. The expressions of
constant seeds, the messages of all errors of a program, and its name and its version are put in
quotes in this way. -/
theorem readText?_escapeText_and_quoted (text rest : String) (program : Idl.Program) :
    escapeText text = replaceEach '\n' "\\n" (replaceEach '$' "\\$"
      (replaceEach '\'' "\\'" (replaceEach '\\' "\\\\" text))) ∧
    readText? (escapeText text ++ "'" ++ rest) =
      (if '\r' ∈ text.toList then none else some (text, rest)) ∧
    (∀ owner spell, firstText? ((Seed.utf8 text).expression owner spell) =
      if '\r' ∈ text.toList then none else some text) ∧
    (∀ error ∈ program.errors,
      errorMessageLine error ∈ errorsLines program ∧ firstText? (errorMessageLine error) =
        if '\r' ∈ error.message.toList then none else some error.message) ∧
    ∀ constant ∈ [("name", program.name), ("version", program.shownVersion)],
      textConstantLine constant.1 constant.2 ∈ programLines program ∧
      firstText? (textConstantLine constant.1 constant.2) =
        if '\r' ∈ constant.2.toList then none else some constant.2 := by
  refine ⟨escapeText_eq_replaceEach text, readText?_escapeText text rest, fun owner spell => ?_,
    fun error herror =>
      ⟨errorMessageLine_mem_errorsLines herror, firstText?_errorMessageLine error⟩,
    fun constant hconstant => ?_⟩
  · have hhead : '\'' ∉ "utf8.encode(".toList := by decide
    have hfront : '\'' ∉ "".toList := List.not_mem_nil
    exact firstText?_quoted hfront hhead text ")"
  · simp only [List.mem_cons, List.not_mem_nil, or_false] at hconstant
    rcases hconstant with rfl | rfl
    · have hname : '\'' ∉ "name".toList := by decide
      have hline : (programLines program)[11]? = some (textConstantLine "name" program.name) := rfl
      exact ⟨List.mem_of_getElem? hline, firstText?_textConstantLine hname _⟩
    · have hversion : '\'' ∉ "version".toList := by decide
      have hline : (programLines program)[14]? =
          some (textConstantLine "version" program.shownVersion) := rfl
      exact ⟨List.mem_of_getElem? hline, firstText?_textConstantLine hversion _⟩

/-- A program with an error that is told in two texts and whose message has all the characters that
are escaped. -/
def till : Idl.Program where
  name := "till"
  publicKey := "11111111111111111111111111111111"
  version := "0.1.0"
  origin := none
  docs := []
  accounts := []
  instructions := []
  definedTypes := []
  pdas := []
  errors := [⟨"tooMuch", 6000, "can't take\n$\\5", ["Raised when", "the drawer is full."]⟩]

/-- The message of that error is read back, and so are the text alone and the version. -/
theorem readText?_escapeText_and_quoted_till :
    readText? (escapeText "can't take\n$\\5" ++ "'" ++ ",") = some ("can't take\n$\\5", ",") ∧
      (∃ line ∈ errorsLines till, firstText? line = some "can't take\n$\\5") ∧
      ∃ line ∈ programLines till, firstText? line = some "0.1.0" := by
  obtain ⟨-, htext, -, herrors, hconstants⟩ :=
    readText?_escapeText_and_quoted "can't take\n$\\5" "," till
  obtain ⟨herror, hmessage⟩ := herrors _ List.mem_cons_self
  obtain ⟨hline, hversion⟩ := hconstants ("version", "0.1.0") (by decide)
  exact ⟨htext.trans (if_neg (by decide)), ⟨_, herror, hmessage.trans (if_neg (by decide))⟩,
    ⟨_, hline, hversion.trans (if_neg (by decide))⟩⟩

/-- A carriage return is left as it is, and a text that has one cannot be read. -/
theorem readText?_escapeText_return :
    escapeText "\r" = "\r" ∧ readText? (escapeText "\r" ++ "'") = none := by
  decide

end DartClient
