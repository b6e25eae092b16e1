import DartClient.Proofs.Source.Quotation
import DartClient.Proofs.Text.LineEnds

/-!
# Documentation in comments

Documentation and names are put into generated code as they are, each behind the mark of a comment
on a line of its own. The comment is a comment on all of its lines if and only if each of the texts
is continued with the same mark behind every line end in it, which is so for all texts without line
ends. A text that is continued with something else puts that into the code.

## Main definitions

* `indentation`: blanks in front of a line.
* `errorComment`: the comment in front of the constant of an error.

## Main results

* `marked_docComment_iff`: when a block of documentation is all comment.
* `comments_marked_iff`: the same for all comments that hold documentation or names.
* `not_marked_docComment`: a text that puts code behind its comment.
-/

namespace DartClient

open Text (Marked Continues OneLine unlines)
open Idl (Program ErrorCode)

/-- Blanks in front of a line. -/
def indentation (count : Nat) : String := .ofList (List.replicate count ' ')

theorem oneLine_mark (count : Nat) : OneLine (indentation count ++ "///") := by
  rw [Text.oneLine_append]
  refine ⟨fun c hc => ?_, by decide⟩
  rw [indentation, String.toList_ofList] at hc
  rw [List.eq_of_mem_replicate hc]
  rfl

/-- **A block of documentation is all comment** if and only if each of its texts is continued with
the mark of the comment. -/
theorem marked_docComment_iff (docs : List String) (count : Nat) :
    Marked (indentation count ++ "///") (docComment docs (indentation count)) ↔
      ∀ doc ∈ docs, Continues (indentation count ++ "///") doc := by
  have hlines : docLines docs (indentation count) =
      (docs.map (" " ++ ·)).map (indentation count ++ "///" ++ ·) := by
    rw [docLines, List.map_map]
    refine List.map_congr_left fun doc _ => ?_
    simp only [Function.comp_apply, String.append_assoc]
    rfl
  have hblank : OneLine " " := by decide
  rw [docComment, hlines, Text.marked_unlines_iff (oneLine_mark count), List.forall_mem_map]
  simp only [Text.continues_append hblank]

/-- **A comment of one written line is all comment** if and only if the text at its end is
continued with the mark. -/
theorem marked_unlines_singleton_iff {mark front : String} (hmark : OneLine mark)
    (hfront : OneLine front) (text : String) :
    Marked mark (unlines [mark ++ front ++ text]) ↔ Continues mark text := by
  have hline : [mark ++ front ++ text] = [front ++ text].map (mark ++ ·) := by
    rw [List.map_singleton, String.append_assoc]
  rw [hline, Text.marked_unlines_iff hmark, List.forall_mem_singleton,
    Text.continues_append hfront]

/-! ## Instructions -/

/-- The texts in the comment of the function that makes an instruction: its documentation, or else
its name with the rest of the sentence. -/
def Builder.prose (builder : Builder) : List String :=
  if builder.instruction.docs.isEmpty then [builder.instruction.name ++ " instruction"]
  else builder.instruction.docs

theorem marked_builder_docs_iff (builder : Builder) :
    Marked "///" (unlines builder.docs) ↔ ∀ text ∈ builder.prose, Continues "///" text := by
  rw [Builder.docs, Builder.prose]
  by_cases hdocs : builder.instruction.docs.isEmpty = true
  · rw [if_pos hdocs, if_pos hdocs, List.forall_mem_singleton, String.append_assoc]
    have hmark : OneLine "///" := by decide
    have hfront : OneLine " Creates a " := by decide
    exact marked_unlines_singleton_iff hmark hfront (builder.instruction.name ++ " instruction")
  · rw [if_neg hdocs, if_neg hdocs]
    exact marked_docComment_iff builder.instruction.docs 0

theorem docs_infix_lines (builder : Builder) : builder.docs <:+: builder.lines := by
  refine List.IsPrefix.isInfix ?_
  unfold Builder.lines
  simp only [List.append_assoc]
  exact List.prefix_append _ _

/-! ## Errors -/

/-- The comment of the class with the errors of a program. -/
def errorsComment (program : Program) : List String := ["/// Program errors for " ++ program.name]

/-- The comment in front of the constant of an error. -/
def errorComment (error : ErrorCode) : List String :=
  if error.docs.isEmpty then [] else ["  /// " ++ " ".intercalate error.docs]

theorem marked_errorsComment_iff (program : Program) :
    Marked "///" (unlines (errorsComment program)) ↔ Continues "///" program.name := by
  have hmark : OneLine "///" := by decide
  have hfront : OneLine " Program errors for " := by decide
  exact marked_unlines_singleton_iff hmark hfront program.name

theorem marked_errorComment_iff (error : ErrorCode) :
    Marked "  ///" (unlines (errorComment error)) ↔
      Continues "  ///" (" ".intercalate error.docs) := by
  rw [errorComment]
  by_cases hdocs : error.docs.isEmpty = true
  · rw [if_pos hdocs, List.isEmpty_iff.mp hdocs]
    decide
  · rw [if_neg hdocs]
    have hmark : OneLine "  ///" := by decide
    have hfront : OneLine " " := by decide
    exact marked_unlines_singleton_iff hmark hfront (" ".intercalate error.docs)

theorem errorsComment_infix_errorsLines (program : Program) :
    errorsComment program <:+: errorsLines program := by
  refine List.IsPrefix.isInfix ?_
  unfold errorsLines
  simp only [List.append_assoc, List.cons_append]
  exact List.prefix_append _ _

theorem errorComment_infix_errorsLines {program : Program} {error : ErrorCode}
    (herror : error ∈ program.errors) : errorComment error <:+: errorsLines program := by
  have hsorted : error ∈ sortedErrors program.errors := List.mem_mergeSort.mpr herror
  have hcomment : errorComment error <:+: errorConstantLines error :=
    (List.prefix_append _ _).isInfix
  have hconstants : errorConstantLines error <:+:
      (sortedErrors program.errors).flatMap errorConstantLines :=
    List.infix_of_mem_flatten (List.mem_map_of_mem hsorted)
  refine (hcomment.trans hconstants).trans ?_
  unfold errorsLines
  simp only [List.append_assoc]
  exact ((List.prefix_append _ _).isInfix).trans (List.suffix_append _ _).isInfix

/-! ## All comments -/

/-- **Documentation and names stay inside comments if they are continued with the mark.** This goes
for blocks of documentation at every indentation, for the comment of the function that makes an
instruction, and for the comments of the class with the errors of a program and of its constants;
in each case it is exact. Texts without line ends are not continued at all. -/
theorem comments_marked_iff (docs : List String) (count : Nat) (builder : Builder)
    (program : Program) :
    (Marked (indentation count ++ "///") (docComment docs (indentation count)) ↔
      ∀ doc ∈ docs, Continues (indentation count ++ "///") doc) ∧
    (builder.docs <:+: builder.lines ∧
      (Marked "///" (unlines builder.docs) ↔ ∀ text ∈ builder.prose, Continues "///" text)) ∧
    (errorsComment program <:+: errorsLines program ∧
      (Marked "///" (unlines (errorsComment program)) ↔ Continues "///" program.name) ∧
      ∀ error ∈ program.errors, errorComment error <:+: errorsLines program ∧
        (Marked "  ///" (unlines (errorComment error)) ↔
          Continues "  ///" (" ".intercalate error.docs))) ∧
    ∀ mark text, OneLine text → Continues mark text := by
  refine ⟨marked_docComment_iff docs count, ?_, ?_, fun mark _ htext => htext.continues mark⟩
  · exact ⟨docs_infix_lines builder, marked_builder_docs_iff builder⟩
  · refine ⟨errorsComment_infix_errorsLines program, marked_errorsComment_iff program, ?_⟩
    intro error herror
    exact ⟨errorComment_infix_errorsLines herror, marked_errorComment_iff error⟩

/-- An instruction of this program, which has its name for documentation. -/
def openTill : Builder where
  instruction := ⟨"open", [], [], [], []⟩
  accounts := []
  program := "TillProgram"
  discriminator := [1]

/-- The comments of this instruction and of the errors of the program are comments on all of their
lines. -/
theorem comments_marked_iff_till : Marked "///" (unlines openTill.docs) ∧
    Marked "///" (unlines (errorsComment till)) ∧
    ∃ error ∈ till.errors, errorComment error <:+: errorsLines till ∧
      Marked "  ///" (unlines (errorComment error)) := by
  obtain ⟨-, ⟨-, hbuilder⟩, ⟨-, hname, herrors⟩, honeLine⟩ :=
    comments_marked_iff [] 0 openTill till
  obtain ⟨hwithin, hdocs⟩ := herrors _ List.mem_cons_self
  refine ⟨hbuilder.mpr ?_, hname.mpr (honeLine _ _ ?_), _, List.mem_cons_self, hwithin,
    hdocs.mpr (honeLine _ _ ?_)⟩
  · exact List.forall_mem_singleton.mpr (honeLine _ _ (by decide))
  · decide
  · decide

/-- **A line feed in a text ends the comment**, and what stands behind it is code. -/
theorem not_marked_docComment :
    ¬ Marked (indentation 0 ++ "///") (docComment ["Fine.\nimport 'dart:io';"] (indentation 0)) ∧
      "import 'dart:io';".toList ∈
        Text.physicalLines (docComment ["Fine.\nimport 'dart:io';"] (indentation 0)) := by
  refine ⟨?_, by decide⟩
  rw [marked_docComment_iff]
  decide

end DartClient
