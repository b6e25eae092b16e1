import DartClient.Proofs.Imports.Removal
import DartClient.Proofs.Text.ByteOrder
import DartClient.Proofs.Text.Legible

/-!
# Reading imports back

The text of imports is made of lines, each with one import statement, and of empty lines between
groups. Here it is read again: the text is cut into lines, the lines into blocks at the empty ones,
and a line into the module between its quotes and the symbols behind it. Two empty lines in a row,
or one at the beginning or at the end, would make a block without statements, and a module in two
lines would make two statements of it; so what is read tells how the text is laid out.

Reading does not know what the imports were. It gives them back as long as no module ends its own
quotes or its line and no symbol ends the list that it stands in.

## Main definitions

* `ImportMap.readImport?`, `ImportMap.readBlocks?`: reading a statement, and a text.
* `ImportMap.IsLegible`: names that stand in the text as they are.
* `ImportMap.IsArranged`: statements in ordered groups, in ascending order.

## Main results

* `ImportMap.readImport?_renderLine`: a line reads as the import that it was made of.
* `ImportMap.readBlocks?_render`: a text reads as the imports that it was made of, well arranged.
-/

namespace DartClient

/-- The symbols that are listed for a module, none if it is imported as a whole. -/
def Imported.names : Imported → List String
  | .everything => []
  | .symbols names => names.toList

namespace ImportMap

variable {imports : ImportMap} {module : String}

/-! ## Reading -/

/-- A symbol in a list, behind blanks. It holds neither a blank nor a semicolon. -/
def readSymbol? (part : List Char) : Option String :=
  let symbol := part.dropWhile (· == ' ')
  if symbol = [] ∨ ' ' ∈ symbol ∨ ';' ∈ symbol then none else some (String.ofList symbol)

/-- What a line imports of a module, given what stands behind the name of the module: either the
line ends, or a list of symbols with commas between them follows. -/
def readImported? (behind : List Char) : Option Imported :=
  if behind = "';".toList then some .everything
  else do
    let shown ← "' show ".toList.isPrefixOf? behind
    let list ← ";".toList.isSuffixOf? shown
    let names ← (list.splitOn ',').mapM readSymbol?
    return .symbols (.ofList names)

/-- The import that a line states: a module between quotes, and what is imported of it. -/
def readImport? (line : List Char) : Option (String × Imported) := do
  let quoted ← "import '".toList.isPrefixOf? line
  let imported ← readImported? (quoted.dropWhile (· != '\''))
  return (String.ofList (quoted.takeWhile (· != '\'')), imported)

/-- The lines of a text, each of which has its end. -/
def readLines? (text : List Char) : Option (List (List Char)) :=
  let pieces := text.splitOn '\n'
  if pieces.getLast? = some [] then some pieces.dropLast else none

/-- Blocks of lines, with an empty line between two of them. -/
def blocksOf (lines : List (List Char)) : List (List (List Char)) :=
  if lines = [] then [] else lines.splitOn []

/-- The imports that the lines of a text state, block by block. -/
def readBlocks? (text : String) : Option (List (List (String × Imported))) := do
  let lines ← readLines? text.toList
  (blocksOf lines).mapM fun block => block.mapM readImport?

/-- What some statements import together. -/
def ofStatements (statements : List (String × Imported)) : ImportMap :=
  statements.foldl (fun imports (module, imported) => imports.addImported module imported) empty

/-! ## Names and arrangements -/

/-- A text can stand between single quotes on a line. -/
def IsModuleName (module : String) : Prop := '\'' ∉ module.toList ∧ '\n' ∉ module.toList

instance (module : String) : Decidable (IsModuleName module) :=
  inferInstanceAs (Decidable ('\'' ∉ module.toList ∧ '\n' ∉ module.toList))

/-- A text can stand in a list of symbols on a line. -/
def IsSymbol (symbol : String) : Prop :=
  symbol ≠ "" ∧ ',' ∉ symbol.toList ∧ ' ' ∉ symbol.toList ∧ ';' ∉ symbol.toList ∧
    '\n' ∉ symbol.toList

instance (symbol : String) : Decidable (IsSymbol symbol) :=
  inferInstanceAs (Decidable (symbol ≠ "" ∧ ',' ∉ symbol.toList ∧ ' ' ∉ symbol.toList ∧
    ';' ∉ symbol.toList ∧ '\n' ∉ symbol.toList))

/-- All modules and symbols stand in a text as they are. -/
def IsLegible (imports : ImportMap) : Prop :=
  ∀ entry ∈ imports.toList, IsModuleName entry.1 ∧ ∀ symbol ∈ entry.2.names, IsSymbol symbol

instance (imports : ImportMap) : Decidable imports.IsLegible :=
  inferInstanceAs (Decidable (∀ entry ∈ imports.toList,
    IsModuleName entry.1 ∧ ∀ symbol ∈ entry.2.names, IsSymbol symbol))

/-- The place of a group of modules among the others. -/
def ModuleGroup.place : ModuleGroup → Nat
  | .core => 0
  | .package => 1
  | .library => 2

/-- Statements stand in blocks, none of which is empty. A block is made of modules of one group, in
ascending order, and the groups of the blocks are in order, too. -/
structure IsArranged (blocks : List (List (String × Imported))) : Prop where
  nonempty : ∀ block ∈ blocks, block ≠ []
  uniform : ∀ block ∈ blocks, ∀ statement ∈ block, ∀ other ∈ block,
    groupOf statement.1 = groupOf other.1
  ascending : ∀ block ∈ blocks, block.Pairwise fun statement other =>
    Text.Utf8.encode statement.1 < Text.Utf8.encode other.1
  ordered : blocks.Pairwise fun block later => ∀ statement ∈ block, ∀ other ∈ later,
    (groupOf statement.1).place < (groupOf other.1).place

/-- No module stands in two statements. -/
theorem IsArranged.nodup {blocks : List (List (String × Imported))} (h : IsArranged blocks) :
    (blocks.flatten.map Prod.fst).Nodup := by
  rw [List.Nodup, List.pairwise_map, List.pairwise_flatten]
  constructor
  · intro block hblock
    refine (h.ascending block hblock).imp fun hlt hsame => ?_
    rw [hsame] at hlt
    exact List.lt_irrefl _ hlt
  · refine h.ordered.imp fun hplaces statement hstatement other hother hsame => ?_
    have hlt := hplaces statement hstatement other hother
    rw [hsame] at hlt
    exact Nat.lt_irrefl _ hlt

/-! ## Symbols -/

theorem readSymbol?_of_isSymbol {symbol : String} (h : IsSymbol symbol) :
    readSymbol? symbol.toList = some symbol ∧ readSymbol? (' ' :: symbol.toList) = some symbol := by
  obtain ⟨hne, -, hblank, hsemicolon, -⟩ := h
  have hkept : symbol.toList.dropWhile (· == ' ') = symbol.toList := by
    cases hsymbol : symbol.toList with
    | nil => rfl
    | cons c rest =>
      rw [hsymbol] at hblank
      have hc : (c == ' ') = false := by
        rw [beq_eq_false_iff_ne]
        rintro rfl
        exact hblank List.mem_cons_self
      rw [List.dropWhile_cons, hc]
      rfl
  have hcut : (' ' :: symbol.toList).dropWhile (· == ' ') = symbol.toList := by
    rw [List.dropWhile_cons]
    exact hkept
  have hnil : symbol.toList ≠ [] := by simpa using hne
  constructor
  · simp only [readSymbol?, hkept, hnil, hblank, hsemicolon, or_self, if_false,
      String.ofList_toList]
  · simp only [readSymbol?, hcut, hnil, hblank, hsemicolon, or_self, if_false,
      String.ofList_toList]

/-- Commas that stand in no item cut a list into its items, all but the first behind a blank. -/
theorem splitOn_listed {spellings : List (List Char)} : ∀ {spelling : List Char},
    (∀ item ∈ spelling :: spellings, ',' ∉ item) →
      (Text.listed (spelling :: spellings)).splitOn ',' = spelling :: spellings.map (' ' :: ·) := by
  induction spellings with
  | nil =>
    intro spelling h
    rw [Text.listed_cons, List.flatMap_nil, List.append_nil, List.map_nil]
    exact List.splitOn_eq_singleton (h spelling List.mem_cons_self)
  | cons next spellings ih =>
    intro spelling h
    obtain ⟨hspelling, hrest⟩ := List.forall_mem_cons.mp h
    -- The blank behind the comma goes with the next item.
    have hnext : ∀ item ∈ (' ' :: next) :: spellings, ',' ∉ item := by
      simpa [List.forall_mem_cons] using hrest
    have hlisted : Text.listed (spelling :: next :: spellings) =
        spelling ++ ',' :: Text.listed ((' ' :: next) :: spellings) := by
      rw [Text.listed_cons, Text.listed_cons, List.flatMap_cons]
      rfl
    rw [hlisted, List.splitOn_append_cons_self_of_not_mem hspelling, ih hnext, List.map_cons]

theorem mapM_map_eq_some {α β : Type} {read : β → Option α} {write : α → β} {items : List α}
    (h : ∀ item ∈ items, read (write item) = some item) :
    (items.map write).mapM read = some items := by
  induction items with
  | nil => rfl
  | cons item items ih =>
    obtain ⟨hitem, hitems⟩ := List.forall_mem_cons.mp h
    rw [List.map_cons, List.mapM_cons, hitem, ih hitems]
    rfl

theorem mapM_readSymbol? {names : List String} (hne : names ≠ [])
    (h : ∀ symbol ∈ names, IsSymbol symbol) :
    ((", ".intercalate names).toList.splitOn ',').mapM readSymbol? = some names := by
  obtain ⟨first, rest, rfl⟩ := List.exists_cons_of_ne_nil hne
  obtain ⟨hfirst, hrest⟩ := List.forall_mem_cons.mp h
  have hcommas : ∀ item ∈ first.toList :: rest.map String.toList, ',' ∉ item := by
    intro item hitem
    obtain ⟨symbol, hsymbol, rfl⟩ := List.mem_map.mp (List.map_cons ▸ hitem)
    exact (h symbol hsymbol).2.1
  have hlisted : (", ".intercalate (first :: rest)).toList =
      Text.listed (first.toList :: rest.map String.toList) := String.toList_intercalate
  have hread : (rest.map ((' ' :: ·) ∘ String.toList)).mapM readSymbol? = some rest :=
    mapM_map_eq_some fun symbol hsymbol => (readSymbol?_of_isSymbol (hrest symbol hsymbol)).2
  rw [hlisted, splitOn_listed hcommas, List.map_map, List.mapM_cons,
    (readSymbol?_of_isSymbol hfirst).1, hread]
  rfl

/-! ## Lines -/

/-- The symbols of a module are read from the list that they are written as. -/
theorem readImported?_symbols {names : Std.ExtTreeSet String} (hne : names.toList ≠ [])
    (hsymbols : ∀ symbol ∈ names.toList, IsSymbol symbol) :
    readImported? ("' show ".toList ++ ((", ".intercalate names.toList).toList ++ [';'])) =
      some (.symbols names) := by
  have hprefix : "' show ".toList.isPrefixOf?
      ("' show ".toList ++ ((", ".intercalate names.toList).toList ++ [';'])) =
        some ((", ".intercalate names.toList).toList ++ [';']) :=
    List.isPrefixOf?_eq_some_iff_append_eq.mpr rfl
  have hsuffix : ";".toList.isSuffixOf? ((", ".intercalate names.toList).toList ++ [';']) =
      some (", ".intercalate names.toList).toList :=
    List.isSuffixOf?_eq_some_iff_append_eq.mpr rfl
  have hlist := mapM_readSymbol? hne hsymbols
  have hnames : (Std.ExtTreeSet.ofList names.toList : Std.ExtTreeSet String) = names :=
    Std.ExtTreeSet.ext_mem fun symbol => by
      rw [Std.ExtTreeSet.mem_ofList, List.contains_iff_mem, Std.ExtTreeSet.mem_toList]
  simp only [readImported?, if_neg (by simp : ¬ "' show ".toList ++ _ = "';".toList), hprefix,
    hsuffix, hlist, hnames, Option.bind_eq_bind, Option.bind_some, Option.pure_def]

theorem readImport?_quoted {behind : List Char} {imported : Imported}
    (hmodule : IsModuleName module) (hbehind : readImported? ('\'' :: behind) = some imported) :
    readImport? ("import '".toList ++ (module.toList ++ '\'' :: behind)) =
      some (module, imported) := by
  have hquote : ∀ c ∈ module.toList, (c != '\'') = true := by
    intro c hc
    rw [bne_iff_ne]
    rintro rfl
    exact hmodule.1 hc
  have hprefix : "import '".toList.isPrefixOf?
      ("import '".toList ++ (module.toList ++ '\'' :: behind)) =
        some (module.toList ++ '\'' :: behind) :=
    List.isPrefixOf?_eq_some_iff_append_eq.mpr rfl
  have htake : (module.toList ++ '\'' :: behind).takeWhile (· != '\'') = module.toList := by
    rw [List.takeWhile_append_of_pos hquote]
    simp
  have hdrop : (module.toList ++ '\'' :: behind).dropWhile (· != '\'') = '\'' :: behind := by
    rw [List.dropWhile_append_of_pos hquote]
    simp
  rw [readImport?, hprefix, Option.bind_eq_bind, Option.bind_some, hdrop, hbehind, htake,
    String.ofList_toList]
  rfl

/-- **A line reads as the import that it was made of.** -/
theorem readImport?_renderLine {imported : Imported} (hmodule : IsModuleName module)
    (hproper : Imported.Proper (some imported))
    (hsymbols : ∀ symbol ∈ imported.names, IsSymbol symbol) :
    readImport? (renderLine module imported).toList = some (module, imported) := by
  cases imported with
  | everything =>
    have hline : (renderLine module .everything).toList =
        "import '".toList ++ (module.toList ++ '\'' :: [';']) := by
      simp [renderLine]
    rw [hline]
    exact readImport?_quoted hmodule rfl
  | symbols names =>
    obtain ⟨symbol, hsymbol⟩ := hproper names rfl
    have hne : names.toList ≠ [] := List.ne_nil_of_mem (Std.ExtTreeSet.mem_toList.mpr hsymbol)
    have hline : (renderLine module (.symbols names)).toList =
        "import '".toList ++ (module.toList ++ '\'' ::
          (" show ".toList ++ ((", ".intercalate names.toList).toList ++ [';']))) := by
      simp [renderLine]
    rw [hline]
    exact readImport?_quoted hmodule (readImported?_symbols hne hsymbols)

/-! ## Blocks -/

theorem splitOn_unlines {lines : List String} (h : ∀ line ∈ lines, '\n' ∉ line.toList) :
    (Text.unlines lines).toList.splitOn '\n' = lines.map String.toList ++ [[]] := by
  induction lines with
  | nil => rfl
  | cons line lines ih =>
    obtain ⟨hline, hlines⟩ := List.forall_mem_cons.mp h
    have htext : (Text.unlines (line :: lines)).toList =
        line.toList ++ '\n' :: (Text.unlines lines).toList := by
      simp [Text.unlines]
    rw [htext, List.splitOn_append_cons_self_of_not_mem hline, ih hlines, List.map_cons,
      List.cons_append]

theorem readLines?_unlines {lines : List String} (h : ∀ line ∈ lines, '\n' ∉ line.toList) :
    readLines? (Text.unlines lines).toList = some (lines.map String.toList) := by
  simp [readLines?, splitOn_unlines h]

/-- Empty lines cut lines into blocks again, if there is no empty block and no empty line in one. -/
theorem blocksOf_intercalate {blocks : List (List (List Char))}
    (hblocks : ∀ block ∈ blocks, block ≠ []) (hlines : ∀ block ∈ blocks, [] ∉ block) :
    blocksOf ([[]].intercalate blocks) = blocks := by
  cases blocks with
  | nil => rfl
  | cons first rest =>
    -- Without lines there would be no block, not an empty one, so the lines have to be there.
    have hne : [[]].intercalate (first :: rest) ≠ [] := by
      have hfirst := hblocks first List.mem_cons_self
      cases rest <;> simp [List.intercalate_cons_cons, hfirst]
    rw [blocksOf, if_neg hne]
    exact List.splitOn_intercalate [] hlines (List.cons_ne_nil _ _)

/-! ## Groups -/

/-- The imports of one group, in ascending order. -/
def groupEntries (imports : ImportMap) (group : ModuleGroup) : List (String × Imported) :=
  imports.toList.filter fun entry => groupOf entry.1 = group

/-- The imports in groups. -/
def blocks (imports : ImportMap) : List (List (String × Imported)) :=
  ([.core, .package, .library].map imports.groupEntries).filter fun block => !block.isEmpty

/-- The line of an entry. -/
def entryLine (entry : String × Imported) : String := renderLine entry.1 entry.2

theorem groupLines_eq (group : ModuleGroup) :
    imports.groupLines group = (imports.groupEntries group).map entryLine := by
  rw [groupEntries, ← List.filterMap_eq_map, List.filterMap_filter]
  simp only [groupLines, decide_eq_true_eq]
  rfl

theorem lines_eq : imports.lines = [""].intercalate (imports.blocks.map (·.map entryLine)) := by
  have hgroups : [.core, .package, .library].map imports.groupLines =
      ([.core, .package, .library].map imports.groupEntries).map (·.map entryLine) := by
    rw [List.map_map]
    exact List.map_congr_left fun group _ => groupLines_eq group
  rw [lines, hgroups, List.filter_map, blocks]
  congr 3
  funext block
  simp

theorem mem_groupEntries {group : ModuleGroup} {imported : Imported} :
    (module, imported) ∈ imports.groupEntries group ↔
      imports.get? module = some imported ∧ groupOf module = group := by
  rw [groupEntries, List.mem_filter, mem_toList, decide_eq_true_eq]

/-- What is not empty among the groups is still one of the groups. -/
theorem exists_group_of_mem_blocks {block : List (String × Imported)}
    (h : block ∈ imports.blocks) : ∃ group, block = imports.groupEntries group := by
  obtain ⟨group, -, rfl⟩ := List.mem_map.mp (List.mem_filter.mp h).1
  exact ⟨group, rfl⟩

theorem mem_flatten_blocks {imported : Imported} :
    (module, imported) ∈ imports.blocks.flatten ↔ imports.get? module = some imported := by
  rw [List.mem_flatten]
  constructor
  · rintro ⟨block, hblock, h⟩
    obtain ⟨group, rfl⟩ := exists_group_of_mem_blocks hblock
    exact (mem_groupEntries.mp h).1
  · intro hget
    have h := mem_groupEntries.mpr ⟨hget, rfl⟩
    refine ⟨_, List.mem_filter.mpr ⟨List.mem_map_of_mem ?_, ?_⟩, h⟩
    · cases groupOf module <;> simp
    · simp [List.ne_nil_of_mem h]

/-- **Imports are written in groups, in ascending order.** -/
theorem isArranged_blocks : IsArranged imports.blocks where
  nonempty block hblock := by simpa using (List.mem_filter.mp hblock).2
  uniform block hblock statement hstatement other hother := by
    obtain ⟨group, rfl⟩ := exists_group_of_mem_blocks hblock
    exact (mem_groupEntries.mp hstatement).2.trans (mem_groupEntries.mp hother).2.symm
  ascending block hblock := by
    obtain ⟨group, rfl⟩ := exists_group_of_mem_blocks hblock
    have hordered : imports.toList.Pairwise fun entry other => compare entry.1 other.1 = .lt :=
      Std.ExtTreeMap.ordered_keys_toList
    exact (hordered.imp fun h => Text.Utf8.encode_lt (compareOfLessAndEq_eq_lt.mp h)).filter _
  ordered := by
    -- The groups are listed in order, and leaving out the empty ones keeps it.
    refine List.Pairwise.filter _ (List.pairwise_map.mpr ?_)
    have hplaces : [ModuleGroup.core, .package, .library].Pairwise fun group later =>
        group.place < later.place := by
      decide
    refine hplaces.imp fun hlt statement hstatement other hother => ?_
    rwa [(mem_groupEntries.mp hstatement).2, (mem_groupEntries.mp hother).2]

/-! ## The whole text -/

/-- Statements that are those of some imports import the same together. -/
theorem ofStatements_eq {statements : List (String × Imported)} (h : imports.Proper)
    (hstatements : ∀ module imported,
      (module, imported) ∈ statements ↔ imports.get? module = some imported) :
    ofStatements statements = imports := by
  refine eq_of_contains_iff (proper_empty.foldl_addImported fun key => key) h (fun module => ?_)
    fun module symbol => ?_
  · refine (whole_foldl_addImported fun key => key).trans ?_
    simp [hstatements, Whole]
  · refine (contains_foldl_addImported fun key => key).trans ?_
    simp only [hstatements, contains_iff_exists, contains_empty, Bool.false_eq_true, false_or]
    grind

/-- A line does not end before its end. -/
theorem newline_not_mem_renderLine {imported : Imported} (hmodule : IsModuleName module)
    (hsymbols : ∀ symbol ∈ imported.names, IsSymbol symbol) :
    '\n' ∉ (renderLine module imported).toList := by
  have hname : '\n' ∉ module.toList := hmodule.2
  cases imported with
  | everything => simp [renderLine, hname]
  | symbols names =>
    have hlist : '\n' ∉ [',', ' '].intercalate (names.toList.map String.toList) := by
      intro h
      rcases Text.mem_of_mem_intercalate h with h | ⟨_, hspelling, h⟩
      · simp at h
      · obtain ⟨symbol, hsymbol, rfl⟩ := List.mem_map.mp hspelling
        obtain ⟨-, -, -, -, hnewline⟩ := hsymbols symbol hsymbol
        exact hnewline h
    simp [renderLine, hname, hlist]

theorem newline_not_mem_lines (hlegible : imports.IsLegible) :
    ∀ line ∈ imports.lines, '\n' ∉ line.toList := by
  intro line hline
  by_cases hempty : line = ""
  · simp [hempty]
  · obtain ⟨module, imported, hget, rfl⟩ := entry_of_mem_lines hline hempty
    obtain ⟨hmodule, hsymbols⟩ := hlegible _ (mem_toList.mpr hget)
    exact newline_not_mem_renderLine hmodule hsymbols

theorem map_intercalate {α β : Type} (f : α → β) (separator : List α) (lists : List (List α)) :
    (separator.intercalate lists).map f = (separator.map f).intercalate (lists.map (·.map f)) := by
  induction lists with
  | nil => rfl
  | cons first rest ih =>
    cases rest with
    | nil => simp
    | cons second rest =>
      simp only [List.map_cons, List.intercalate_cons_cons, List.map_append] at ih ⊢
      rw [ih]

theorem map_toList_lines : imports.lines.map String.toList =
    [[]].intercalate (imports.blocks.map (·.map fun entry => (entryLine entry).toList)) := by
  rw [lines_eq, map_intercalate, List.map_map]
  congr 2
  funext block
  simp

/-- **The lines of imports read as the imports,** group by group. -/
theorem readBlocks?_unlines (hlegible : imports.IsLegible) (hproper : imports.Proper) :
    readBlocks? (Text.unlines imports.lines) = some imports.blocks := by
  have hread : ∀ block ∈ imports.blocks,
      (block.map fun entry => (entryLine entry).toList).mapM readImport? = some block := by
    intro block hblock
    refine mapM_map_eq_some fun ⟨module, imported⟩ hentry => ?_
    have hget := mem_flatten_blocks.mp (List.mem_flatten.mpr ⟨block, hblock, hentry⟩)
    obtain ⟨hmodule, hsymbols⟩ := hlegible _ (mem_toList.mpr hget)
    have himported : Imported.Proper (some imported) := hget ▸ hproper module
    exact readImport?_renderLine hmodule himported hsymbols
  -- No line of an import is empty, so the lines come apart where the groups were put together.
  have hblocks : blocksOf (imports.lines.map String.toList) =
      imports.blocks.map (·.map fun entry => (entryLine entry).toList) := by
    rw [map_toList_lines]
    refine blocksOf_intercalate ?_ ?_
    · intro block hblock
      obtain ⟨entries, hentries, rfl⟩ := List.mem_map.mp hblock
      simpa using isArranged_blocks.nonempty entries hentries
    · intro block hblock
      obtain ⟨entries, hentries, rfl⟩ := List.mem_map.mp hblock
      rintro hempty
      obtain ⟨⟨module, imported⟩, -, hline⟩ := List.mem_map.mp hempty
      cases imported <;> simp [entryLine, renderLine] at hline
  rw [readBlocks?, readLines?_unlines (newline_not_mem_lines hlegible), Option.bind_eq_bind,
    Option.bind_some, hblocks]
  exact mapM_map_eq_some hread

/-- **Imports can be read back.** The text of imports that the operations lead to, whose aliases
have been replaced, reads as these imports: each module stands in one statement, each statement on
one line, modules of the language first, then those of packages, then all others, in ascending order
within each of these groups, and there is one empty line between two groups and no other one. -/
theorem readBlocks?_render (h : imports.Reachable) {aliases : Aliases}
    (hlegible : (imports.resolve aliases).IsLegible) :
    ∃ blocks, readBlocks? (imports.render aliases) = some blocks ∧
      ofStatements blocks.flatten = imports.resolve aliases ∧
      (blocks.flatten.map Prod.fst).Nodup ∧ IsArranged blocks := by
  have hproper := (h.resolve aliases).proper
  exact ⟨(imports.resolve aliases).blocks, readBlocks?_unlines hlegible hproper,
    ofStatements_eq hproper fun _ _ => mem_flatten_blocks, isArranged_blocks.nodup,
    isArranged_blocks⟩

/-- The imports of a file that names one module by an alias and by its own name. -/
def stateImports : ImportMap :=
  (((empty.add "../types/vault_state.dart" ["VaultState"]).addModule
    "package:solana/solana.dart").add "typedData" ["Uint8List", "Int16List"]).add
    "dart:typed_data" ["ByteData"]

/-- What the alias stands for. -/
def stateAliases : Aliases := .ofList [("typedData", "dart:typed_data")]

/-- What is read of three groups, the first of which gathers the symbols of two modules. -/
theorem readBlocks?_render_state :
    stateImports.Reachable ∧ (stateImports.resolve stateAliases).IsLegible ∧
    ∃ blocks, readBlocks? ("import 'dart:typed_data' show ByteData, Int16List, Uint8List;\n\n" ++
        "import 'package:solana/solana.dart';\n\n" ++
        "import '../types/vault_state.dart' show VaultState;\n") = some blocks ∧
      ofStatements blocks.flatten = stateImports.resolve stateAliases ∧
      (blocks.flatten.map Prod.fst).Nodup ∧ IsArranged blocks := by
  have hreachable : stateImports.Reachable :=
    (((Reachable.empty.add _ _).addModule _).add _ _).add _ _
  have hlegible : (stateImports.resolve stateAliases).IsLegible := by decide
  have htext : stateImports.render stateAliases =
      "import 'dart:typed_data' show ByteData, Int16List, Uint8List;\n\n" ++
        "import 'package:solana/solana.dart';\n\n" ++
        "import '../types/vault_state.dart' show VaultState;\n" := by
    decide +kernel
  rw [← htext]
  exact ⟨hreachable, hlegible, readBlocks?_render hreachable hlegible⟩

end ImportMap

end DartClient
