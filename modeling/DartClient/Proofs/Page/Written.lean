import DartClient.Page.Package
import DartClient.Proofs.Text.ByteOrder
import DartClient.Proofs.Text.LineEnds
import Mathlib.Data.List.DropRight
import Mathlib.Data.List.Sort

/-!
# The text of a page

A page is written as a banner, its imports, and its body without the blank characters at the end. So
the lines of the text are those of a heading and, below them, those of the body.

The body of the page of a library ends in a line that has a character at its end, so all of its
lines are there. It imports nothing, and neither its heading nor the comments in it read as exports.
So the exports in the text are those of the paths that the page exports, provided that these paths
have no line ends.

## Main definitions

* `Page.heading`: the lines above the body of a page.
* `Page.WrittenAs`: a text is that of a page.
* `exportDirectives`: the exports of a text.
* `IsIndexOf`: a text exports some paths, and no others.

## Main results

* `Page.physicalLines_render`: the lines of the text of a page.
* `exportDirectives_libraryIndex`: the exports in the text of the page of a library.
* `isIndexOf_libraryIndex`: they are those of all other paths, in order.
-/

namespace DartClient

open Text (OneLine pieces physicalLines trimEnd unlines)

/-! ## Texts without blank characters at the end -/

namespace Text

theorem trimEnd_eq (text : String) : trimEnd text = .ofList (text.toList.rdropWhile isBlank) := rfl

/-- A character at the end that is not blank keeps all that stands in front of it. -/
theorem trimEnd_of_getLast? {text : String} {c : Char} (hlast : text.toList.getLast? = some c)
    (hc : isBlank c = false) : trimEnd text = text := by
  obtain ⟨front, hfront⟩ := List.getLast?_eq_some_iff.mp hlast
  rw [trimEnd_eq, hfront, List.rdropWhile_concat_neg _ _ _ (by simp [hc]), ← hfront,
    String.ofList_toList]

theorem trimEnd_append_feed (text : String) : trimEnd (text ++ "\n") = trimEnd text := by
  rw [trimEnd_eq, trimEnd_eq, String.toList_append]
  exact congrArg String.ofList (List.rdropWhile_concat_pos _ _ _ (by decide))

/-- Written lines lose no more than the last line end if there is no blank character in front of
it. -/
theorem pieces_trimEnd_unlines (front : List String) {last : String} {c : Char}
    (hlast : last.toList.getLast? = some c) (hc : isBlank c = false) :
    pieces (trimEnd (unlines (front ++ [last]))) = (front ++ [last]).flatMap pieces := by
  have htext : unlines (front ++ [last]) = unlines front ++ last ++ "\n" := by
    simp [unlines, String.append_assoc]
  have hend : (unlines front ++ last).toList.getLast? = some c := by
    rw [String.toList_append, List.getLast?_append, hlast, Option.some_or]
  rw [htext, trimEnd_append_feed, trimEnd_of_getLast? hend hc, pieces_unlines_append,
    List.flatMap_append, List.flatMap_singleton]

end Text

/-! ## Pages -/

namespace Page

/-- The lines above the body of a page: the banner, the imports behind a blank line if there are
any, and a blank line. -/
def heading (page : Page) (aliases : Aliases) : List String :=
  let imports := ((page.finalImports aliases).resolve aliases).lines
  banner ++ (if imports.isEmpty then [] else "" :: imports) ++ [""]

theorem render_eq (page : Page) (aliases : Aliases) :
    page.render aliases = unlines (page.heading aliases) ++ trimEnd page.body ++ "\n" := by
  have hempty (lines : List String) : (unlines lines).isEmpty = lines.isEmpty := by
    cases lines <;> simp [unlines]
  simp only [render, heading, ImportMap.render, hempty]
  split
  · simp [unlines, String.append_assoc]
  · simp [unlines, String.append_assoc]

/-- **The lines of the text of a page** are those of its heading and, below them, those of its
body. -/
theorem physicalLines_render (page : Page) (aliases : Aliases) :
    physicalLines (page.render aliases) =
      (page.heading aliases).flatMap pieces ++ pieces (trimEnd page.body) := by
  rw [render_eq, Text.physicalLines_append_feed, Text.pieces_unlines_append]

/-- A text is that of a page: the page written down, and so the lines of the body stand in it below
the heading. -/
structure WrittenAs (page : Page) (aliases : Aliases) (text : String) : Prop where
  eq_render : text = page.render aliases
  lines : physicalLines text = (page.heading aliases).flatMap pieces ++ pieces (trimEnd page.body)

theorem writtenAs_render (page : Page) (aliases : Aliases) :
    page.WrittenAs aliases (page.render aliases) := ⟨rfl, page.physicalLines_render aliases⟩

/-- A page without imports has only the banner above its body. -/
theorem heading_of_imports_empty {page : Page} (h : page.imports = .empty) (aliases : Aliases) :
    page.heading aliases = banner ++ [""] := by
  have hentries : ImportMap.empty.toList = [] := rfl
  have hremoved : ImportMap.empty.removeModule page.path = .empty := by
    rw [ImportMap.removeModule, ImportMap.empty, Std.ExtTreeMap.erase_empty]
  have hfinal : page.finalImports aliases = .empty := by
    rw [finalImports, h, hremoved, ImportMap.removeSymbols, hentries, List.foldl_nil,
      ImportMap.mapModules, hentries, List.foldl_nil]
  have hresolved : ImportMap.empty.resolve aliases = .empty := by
    rw [ImportMap.resolve, ImportMap.mapModules, hentries, List.foldl_nil]
  rw [heading, hfinal, hresolved]
  rfl

end Page

/-! ## The page of a library -/

theorem mem_exportedPaths {paths : List String} {own path : String} :
    path ∈ exportedPaths paths own ↔ path ∈ paths ∧ path ≠ own := by
  rw [exportedPaths, Std.ExtTreeSet.mem_toList, Std.ExtTreeSet.mem_ofList, List.contains_iff_mem,
    List.mem_filter, bne_iff_ne]

/-- Exports ascend by their bytes, so each of them is there once. -/
theorem pairwise_exportedPaths (paths : List String) (own : String) :
    (exportedPaths paths own).Pairwise fun path other =>
      Text.Utf8.encode path < Text.Utf8.encode other := by
  have hordered : (exportedPaths paths own).Pairwise fun path other => compare path other = .lt :=
    Std.ExtTreeSet.ordered_toList
  exact hordered.imp fun h => Text.Utf8.encode_lt (compareOfLessAndEq_eq_lt.mp h)

/-- The comments of the page of a library. -/
def indexComments : List String :=
  ["/// Generated Dart library for Solana program interaction;", "",
    "// No exports found - check your program structure"]

/-- The lines of the page of a library are comments and exports. -/
theorem exists_indexLines_eq (exports : List String) : ∃ comments, comments ⊆ indexComments ∧
    indexLines exports = comments ++ exports.map SourceFile.exportLine := by
  cases exports with
  | nil => exact ⟨indexComments, List.Subset.refl _, rfl⟩
  | cons path exports => exact ⟨_, List.subset_append_left _ [_], rfl⟩

/-- All lines of the page of a library are in its text. -/
theorem physicalLines_libraryIndex (paths : List String) (library : String) (aliases : Aliases) :
    physicalLines ((libraryIndex paths library).render aliases) =
      (banner ++ [""] ++ indexLines (exportedPaths paths (library ++ ".dart"))).flatMap pieces := by
  -- The last line is a comment or an export, and neither ends in a blank character.
  have hends : ∃ front last c, indexLines (exportedPaths paths (library ++ ".dart")) =
      front ++ [last] ∧ last.toList.getLast? = some c ∧ Text.isBlank c = false := by
    generalize exportedPaths paths (library ++ ".dart") = exports
    rcases List.eq_nil_or_concat' exports with rfl | ⟨front, last, rfl⟩
    · exact ⟨indexComments.dropLast, _, 'e', rfl, by decide, by decide⟩
    · obtain ⟨comments, -, hlines⟩ := exists_indexLines_eq (front ++ [last])
      refine ⟨comments ++ front.map SourceFile.exportLine, SourceFile.exportLine last, ';', ?_, ?_,
        by decide⟩
      · rw [hlines, List.map_append, ← List.append_assoc]
        rfl
      · rw [SourceFile.exportLine, String.toList_append, List.getLast?_append]
        rfl
  obtain ⟨front, last, c, hlines, hlast, hc⟩ := hends
  have hbody : (libraryIndex paths library).body = unlines (front ++ [last]) := by
    rw [libraryIndex, hlines]
  rw [Page.physicalLines_render, Page.heading_of_imports_empty rfl, hbody, hlines,
    Text.pieces_trimEnd_unlines front hlast hc, ← List.flatMap_append]

/-! ### Exports -/

/-- How an export begins. -/
def exportMark : String := "export '"

/-- A line is an export. -/
def isExport (line : List Char) : Bool := exportMark.toList.isPrefixOf line

/-- The exports of a text, line by line. -/
def exportDirectives (text : String) : List (List Char) := (physicalLines text).filter isExport

/-- A text exports all of some paths but one, each once and in the order of their bytes, and nothing
else. -/
def IsIndexOf (text own : String) (paths : List String) : Prop :=
  ∃ exports : List String,
    exportDirectives text = (exports.map fun path => (SourceFile.exportLine path).toList) ∧
    (∀ path, path ∈ exports ↔ path ∈ paths ∧ path ≠ own) ∧
    exports.Pairwise fun path other => Text.Utf8.encode path < Text.Utf8.encode other

/-- The exports are determined by the paths. -/
theorem IsIndexOf.exportDirectives_eq {text own : String} {paths exports : List String}
    (h : IsIndexOf text own paths) (hmem : ∀ path, path ∈ exports ↔ path ∈ paths ∧ path ≠ own)
    (hascends : exports.Pairwise fun path other =>
      Text.Utf8.encode path < Text.Utf8.encode other) :
    exportDirectives text = exports.map fun path => (SourceFile.exportLine path).toList := by
  obtain ⟨others, htext, hothers, hothersAscend⟩ := h
  let before (path other : String) : Prop := Text.Utf8.encode path < Text.Utf8.encode other
  have hirrefl : Std.Irrefl before := ⟨fun path => List.lt_irrefl (Text.Utf8.encode path)⟩
  have hantisymm : Std.Antisymm before := ⟨fun path other h h' => absurd h (List.lt_asymm h')⟩
  have hsame : others = exports := List.Pairwise.eq_of_mem_iff hothersAscend hascends
    fun path => (hothers path).trans (hmem path).symm
  rw [htext, hsame]

theorem filter_pieces_exportLine {path : String} (hpath : OneLine path) :
    (pieces (SourceFile.exportLine path)).filter isExport =
      [(SourceFile.exportLine path).toList] := by
  have hline : OneLine (SourceFile.exportLine path) := by
    rw [SourceFile.exportLine, Text.oneLine_append, Text.oneLine_append]
    exact ⟨⟨by decide, hpath⟩, by decide⟩
  have hmark : exportMark.toList <+: (SourceFile.exportLine path).toList := by
    rw [SourceFile.exportLine, String.append_assoc, String.toList_append]
    exact List.prefix_append _ _
  exact Text.filter_pieces_of_prefix hline hmark

/-- A line that is written out and begins with another character is no export. -/
theorem filter_pieces_literal {c : Char} {cs : List Char} (hc : c ≠ 'e')
    (hline : ((c :: cs).all fun c => !Text.isLineEnd c) = true) :
    (pieces (.ofList (c :: cs))).filter isExport = [] := by
  have hmark : exportMark.toList = 'e' :: "xport '".toList := String.toList_ofList
  have hother : ¬ isExport (String.ofList (c :: cs)).toList = true := by
    rw [isExport, String.toList_ofList, hmark, List.isPrefixOf_cons_cons, beq_false_of_ne hc.symm,
      Bool.false_and]
    exact Bool.false_ne_true
  rw [Text.pieces_of_oneLine (Text.oneLine_ofList hline), List.filter_cons_of_neg hother,
    List.filter_nil]

/-- Neither the banner nor the comments of the page of a library read as exports. -/
theorem filter_pieces_of_mem_comments {line : String} (h : line ∈ banner ++ [""] ++ indexComments) :
    (pieces line).filter isExport = [] := by
  revert line
  simp only [banner, indexComments, List.cons_append, List.nil_append, List.forall_mem_cons]
  have hblank : (pieces "").filter isExport = [] := rfl
  and_intros
  all_goals first
    | with_reducible exact hblank
    | with_reducible exact List.forall_mem_nil _
    | with_reducible exact filter_pieces_literal (by decide) (by decide)

/-- **The exports in the text of the page of a library** are those of the paths that it exports. -/
theorem exportDirectives_libraryIndex {paths : List String} (hpaths : ∀ path ∈ paths, OneLine path)
    (library : String) (aliases : Aliases) :
    exportDirectives ((libraryIndex paths library).render aliases) =
      (exportedPaths paths (library ++ ".dart")).map fun path =>
        (SourceFile.exportLine path).toList := by
  have honeLine : ∀ path ∈ exportedPaths paths (library ++ ".dart"), OneLine path :=
    fun path hpath => hpaths path (mem_exportedPaths.mp hpath).1
  rw [exportDirectives, physicalLines_libraryIndex, List.filter_flatMap]
  generalize exportedPaths paths (library ++ ".dart") = exports at honeLine ⊢
  obtain ⟨comments, hcomments, hlines⟩ := exists_indexLines_eq exports
  have hheading : (banner ++ [""] ++ comments).flatMap
      (fun line => (pieces line).filter isExport) = [] := by
    rw [List.flatMap_eq_nil_iff]
    refine fun line hline => filter_pieces_of_mem_comments ?_
    rcases List.mem_append.mp hline with hline | hline
    · exact List.mem_append_left _ hline
    · exact List.mem_append_right _ (hcomments hline)
  rw [hlines, ← List.append_assoc, List.flatMap_append, hheading, List.nil_append,
    List.flatMap_map, List.map_eq_flatMap]
  exact List.flatMap_congr fun path hpath => filter_pieces_exportLine (honeLine path hpath)

/-- **The text of the page of a library exports all other paths.** -/
theorem isIndexOf_libraryIndex {paths : List String} (hpaths : ∀ path ∈ paths, OneLine path)
    (library : String) (aliases : Aliases) :
    IsIndexOf ((libraryIndex paths library).render aliases) (library ++ ".dart") paths :=
  ⟨_, exportDirectives_libraryIndex hpaths library aliases, fun _ => mem_exportedPaths,
    pairwise_exportedPaths _ _⟩

end DartClient
