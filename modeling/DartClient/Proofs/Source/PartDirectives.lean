import DartClient.Proofs.Source.Prose

/-!
# Part directives

A part directive is a line that begins with the word `part` and a quote. A file writes one for
itself if it has a part file, and none of the lines of its items begins in this way: they begin with
blanks, with the marks of comments and annotations, with braces, or with other words.

What is written as one line is read as several if a text in it has line ends. So the part directives
that are read are the one of the file and those that stand behind line ends in the prose of items.

## Main definitions

* `partDirectives`: the part directives of a text.
* `strayDirectives`: those that stand behind line ends in the prose of items.
* `Item.isRecord`: a class whose readers are generated into the part file.

## Main results

* `Item.Unbroken.apart_lines`: no line of an item begins as a part directive.
* `SourceFile.partDirectives_unlines`: the part directives of a file.
* `any_isRecord_declarationItems`: a declaration needs a part file if it brings such a class.
-/

namespace DartClient

open Text (OneLine OneLines pieces continuations physicalLines tails unlines)

/-! ## Directives -/

/-- How a part directive begins. -/
def directiveMark : String := "part '"

/-- A line is a part directive. -/
def isDirective (line : List Char) : Bool := directiveMark.toList.isPrefixOf line

/-- The part directives of a text, line by line. -/
def partDirectives (text : String) : List (List Char) := (physicalLines text).filter isDirective

/-- A line begins with another character than a part directive. -/
def StartsApart (line : String) : Prop := ∃ c rest, line.toList = c :: rest ∧ c ≠ 'p'

/-- All lines are empty or begin with another character than a part directive. -/
def Apart (lines : List String) : Prop := ∀ line ∈ lines, line = "" ∨ StartsApart line

section Lines

variable {line front rest : String} {lines others : List String}

theorem startsApart_literal {c : Char} {cs : List Char} (hc : c ≠ 'p') :
    StartsApart (.ofList (c :: cs)) := ⟨c, cs, String.toList_ofList, hc⟩

theorem StartsApart.append (h : StartsApart front) (rest : String) :
    StartsApart (front ++ rest) := by
  obtain ⟨c, cs, hcs, hc⟩ := h
  exact ⟨c, cs ++ rest.toList, by rw [String.toList_append, hcs, List.cons_append], hc⟩

theorem apart_nil : Apart [] := fun _ h => absurd h List.not_mem_nil

theorem apart_cons (h : StartsApart line) (hlines : Apart lines) : Apart (line :: lines) :=
  List.forall_mem_cons.mpr ⟨.inr h, hlines⟩

theorem apart_blank (h : Apart lines) : Apart ("" :: lines) :=
  List.forall_mem_cons.mpr ⟨.inl rfl, h⟩

theorem Apart.append (h : Apart lines) (hothers : Apart others) : Apart (lines ++ others) :=
  List.forall_mem_append.mpr ⟨h, hothers⟩

theorem apart_map {α : Type} {items : List α} {write : α → String}
    (h : ∀ item, StartsApart (write item)) : Apart (items.map write) := by
  intro line hline
  obtain ⟨item, -, rfl⟩ := List.mem_map.mp hline
  exact .inr (h item)

theorem apart_flatMap {α : Type} {items : List α} {write : α → List String}
    (h : ∀ item, Apart (write item)) : Apart (items.flatMap write) := by
  intro line hline
  obtain ⟨item, -, hline⟩ := List.mem_flatMap.mp hline
  exact h item line hline

theorem apart_ite {c : Prop} [Decidable c] (h : Apart lines) (hothers : Apart others) :
    Apart (if c then lines else others) := by
  split
  · exact h
  · exact hothers

theorem apart_indented {indent : String} (h : StartsApart indent) (lines : List String) :
    Apart (Text.indented indent lines) := apart_map fun line => h.append line

theorem apart_docLines {indent : String} (h : indent = "" ∨ StartsApart indent)
    (docs : List String) : Apart (docLines docs indent) := by
  refine apart_map fun doc => StartsApart.append ?_ doc
  rcases h with rfl | h
  · have hmark : "" ++ "/// " = "/// " := String.empty_append
    rw [hmark]
    exact startsApart_literal (by decide)
  · exact h.append _

end Lines

/-! ## Items -/

/-- **No line of an item begins as a part directive.** -/
theorem Item.Unbroken.apart_lines {item : Item} (h : item.Unbroken) : Apart item.lines := by
  -- What a line begins with is written out in the definitions, so they are all opened.
  cases item
  case' record record =>
    show Apart record.lines
    unfold RecordClass.lines RecordClass.constantLines RecordClass.parameterLines
      RecordClass.factoryLines showMethod opening closing
  case' empty variant =>
    show Apart variant.lines
    unfold EmptyClass.lines opening closing
  case' enum enum =>
    show Apart enum.lines
    unfold EnumClass.lines EnumClass.factoryLines EnumClass.usage opening closing
  case' synonym docs name target =>
    show Apart (docLines docs "" ++ ["typedef " ++ name ++ " = " ++ target ++ ";"])
  case' builder builder =>
    show Apart builder.lines
    unfold Builder.lines Builder.docs Builder.headLines BuilderParameter.lines Builder.localLines
      derivationCall Builder.accountsLines Builder.accountLines Builder.dataLine opening closing
  case helper | code => exact h.elim
  all_goals
    repeat first
      | with_reducible exact apart_nil
      | with_reducible apply apart_blank
      | with_reducible apply apart_cons
      | with_reducible apply Apart.append
      | with_reducible apply apart_ite
      | with_reducible refine apart_flatMap fun _ => ?_
      | with_reducible refine apart_docLines ?_ _
      | with_reducible refine apart_indented ?_ _
      | with_reducible refine apart_map fun _ => ?_
      | with_reducible apply StartsApart.append
      | with_reducible exact startsApart_literal (by decide)
      | exact .inl rfl
      | with_reducible exact .inr (startsApart_literal (by decide))
      | split
      | dsimp only

/-! ## Files -/

/-- The part directives that a line is read with, for any line that does not begin as one, stand
behind its line ends. -/
theorem filter_pieces {line : String} (h : line = "" ∨ StartsApart line) :
    (pieces line).filter isDirective = (continuations line).filter isDirective := by
  rcases h with rfl | ⟨c, rest, hline, hc⟩
  · rfl
  · have hplain (front : List Char) : isDirective (c :: front) = false := by
      have hmark : directiveMark.toList = 'p' :: ['a', 'r', 't', ' ', '\''] := String.toList_ofList
      rw [isDirective, hmark, List.isPrefixOf_cons_cons, beq_false_of_ne hc.symm, Bool.false_and]
    rw [continuations, pieces, hline, List.splitOnP_cons_eq_if_modifyHead]
    split
    · rfl
    · cases hpieces : rest.splitOnP Text.isLineEnd with
      | nil => rfl
      | cons front behind =>
        rw [List.modifyHead_cons, List.filter_cons_of_neg (by simp [hplain]), List.tail_cons]

/-- The part directives that stand behind line ends in the prose of items. -/
def strayDirectives (items : List Item) : List (List Char) :=
  (tails (items.flatMap Item.prose)).filter isDirective

/-- Prose without line ends has none. -/
theorem strayDirectives_of_oneLines {items : List Item}
    (h : OneLines (items.flatMap Item.prose)) : strayDirectives items = [] := by
  rw [strayDirectives, Text.tails_of_oneLines h, List.filter_nil]

/-- Blank lines between blocks add nothing to what the lines of the blocks contribute. -/
theorem flatMap_intercalate_blank {α : Type} {step : String → List α} (hblank : step "" = [])
    (blocks : List (List String)) :
    ([""].intercalate blocks).flatMap step = blocks.flatten.flatMap step := by
  induction blocks with
  | nil => rfl
  | cons first rest ih =>
    cases rest with
    | nil => rw [List.intercalate_singleton, List.flatten_singleton]
    | cons second rest =>
      have hflatten : (first :: second :: rest).flatten = first ++ (second :: rest).flatten := rfl
      rw [List.intercalate_cons_cons, hflatten, List.flatMap_append, List.flatMap_append, ih,
        List.flatMap_append, List.flatMap_singleton, hblank, List.append_nil]

theorem partDirectives_unlines (lines : List String) : partDirectives (unlines lines) =
    lines.flatMap fun line => (pieces line).filter isDirective := by
  rw [partDirectives, Text.physicalLines_unlines, List.filter_flatMap]

theorem StartsApart.of_exportLine (path : String) : StartsApart (SourceFile.exportLine path) := by
  refine StartsApart.append (StartsApart.append ?_ path) _
  exact startsApart_literal (by decide)

/-- A line without line ends is read as one line. -/
theorem filter_pieces_eq_nil {line : String} (h : line = "" ∨ StartsApart line)
    (hline : OneLine line) : (pieces line).filter isDirective = [] := by
  rw [filter_pieces h, Text.continuations_of_oneLine hline, List.filter_nil]

theorem filter_pieces_partLine {stem : String} (hstem : OneLine stem) :
    (pieces (SourceFile.partLine stem)).filter isDirective =
      [(SourceFile.partLine stem).toList] := by
  have hline : OneLine (SourceFile.partLine stem) := by
    rw [SourceFile.partLine, Text.oneLine_append, Text.oneLine_append]
    exact ⟨⟨by decide, hstem⟩, by decide⟩
  have hmark : directiveMark.toList <+: (SourceFile.partLine stem).toList := by
    rw [SourceFile.partLine, String.append_assoc, String.toList_append]
    exact List.prefix_append _ _
  exact Text.filter_pieces_of_prefix hline hmark

/-- **The part directives of a file** are its own, if it has a part file, and those behind line ends
in the prose of its items. -/
theorem SourceFile.partDirectives_unlines {file : SourceFile}
    (hexports : ∀ path ∈ file.exports.getD [], OneLine path)
    (hpart : ∀ stem, file.part = some stem → OneLine stem)
    (hitems : ∀ item ∈ file.items, item.Unbroken) :
    partDirectives (unlines file.lines) =
      (file.part.map fun stem => (partLine stem).toList).toList ++ strayDirectives file.items := by
  have hblank : (pieces "").filter isDirective = [] := rfl
  have hexportLines : ((file.exports.map fun paths => paths.map exportLine ++ [""]).getD []).flatMap
      (fun line => (pieces line).filter isDirective) = [] := by
    rw [List.flatMap_eq_nil_iff]
    intro line hline
    cases hfile : file.exports with
    | none =>
      rw [hfile] at hline
      cases hline
    | some paths =>
      rw [hfile, Option.map_some, Option.getD_some] at hline
      rcases List.mem_append.mp hline with hline | hline
      · obtain ⟨path, hpath, rfl⟩ := List.mem_map.mp hline
        have honeLine : OneLine path := hexports path (by rw [hfile]; exact hpath)
        refine filter_pieces_eq_nil (.inr (.of_exportLine path)) ?_
        rw [exportLine, Text.oneLine_append, Text.oneLine_append]
        exact ⟨⟨by decide, honeLine⟩, by decide⟩
      · rw [List.mem_singleton.mp hline]
        exact hblank
  have hpartLines : ((file.part.map fun stem => [partLine stem, ""]).getD []).flatMap
      (fun line => (pieces line).filter isDirective) =
        (file.part.map fun stem => (partLine stem).toList).toList := by
    cases hfile : file.part with
    | none => rfl
    | some stem =>
      rw [Option.map_some, Option.getD_some, List.flatMap_cons,
        filter_pieces_partLine (hpart stem hfile)]
      rfl
  have hitemLines : (file.items.map Item.lines).flatten.flatMap
      (fun line => (pieces line).filter isDirective) = strayDirectives file.items := by
    have hprose : Embeds (file.items.flatMap Item.lines) (file.items.flatMap Item.prose) :=
      embeds_flatMap fun item hitem => (hitems item hitem).embeds_lines
    rw [strayDirectives, ← hprose, tails, List.filter_flatMap]
    refine List.flatMap_congr fun line hline => ?_
    obtain ⟨item, hitem, hline⟩ := List.mem_flatMap.mp hline
    exact filter_pieces ((hitems item hitem).apart_lines line hline)
  rw [DartClient.partDirectives_unlines, lines, List.flatMap_append, List.flatMap_append,
    hexportLines, hpartLines, flatMap_intercalate_blank hblank, hitemLines, List.nil_append]

/-! ## Classes with generated readers -/

/-- The item is a class whose readers are generated into the part file. -/
def Item.isRecord : Item → Bool
  | .record _ => true
  | _ => false

theorem isRecord_variantItem (variant : VariantManifest) :
    (variantItem variant).isRecord = !variant.payload.fields.isEmpty := by
  unfold variantItem
  cases variant.payload.fields.isEmpty <;> rfl

/-- **A declaration needs a part file** if and only if it brings a class with generated readers. -/
theorem any_isRecord_declarationItems (declaration : Declaration) :
    (declarationItems declaration).any Item.isRecord = declaration.needsPart := by
  unfold declarationItems Declaration.needsPart
  rcases declaration.shape with _ | fields | ⟨size, variants⟩
  · rfl
  · rfl
  · rw [List.any_cons, List.any_map]
    show (false || variants.any fun variant => (variantItem variant).isRecord) = _
    simp only [isRecord_variantItem, Bool.false_or]

theorem any_isRecord_flatMap (declarations : List Declaration) :
    (declarations.flatMap declarationItems).any Item.isRecord =
      declarations.any Declaration.needsPart := by
  rw [List.any_flatMap]
  simp only [any_isRecord_declarationItems]

end DartClient
