import DartClient.Client.Generate
import DartClient.Proofs.Dictionary.Recording
import DartClient.Proofs.Manifest.Links

/-!
# The units behind a client

Every unit belongs to a program of the description, and every declaration of a program has its unit.
What the dictionary finds is declared by a program. So whatever a link leads to has a unit, and in
a client without failures it has its pages.

## Main results

* `exists_program_of_mem_units`: a unit belongs to a program.
* `Dictionary.exists_program_of_definedType?`: what a link leads to is declared by a program.
* `exists_pages_of_mem_units`: in a complete client every unit has its pages.
* `mem_clientFiles`: the files of a client are those of its pages.
-/

namespace DartClient

open Idl (Root Program Instruction DefinedType Pda)

/-! ## Units -/

/-- A unit is reached through a program and no other program behind it. -/
def ClientUnit.LiesIn (part : ClientUnit) (program : Program) : Prop :=
  ∃ front back, part.path = front ++ .program program :: back ∧
    ∀ node ∈ back, PathNode.program? node = none

theorem ClientUnit.LiesIn.program?_eq {part : ClientUnit} {program : Program}
    (h : part.LiesIn program) : part.program? = some program := by
  obtain ⟨front, back, hpath, hback⟩ := h
  have hnone : back.reverse.findSome? PathNode.program? = none := by
    rw [List.findSome?_eq_none_iff]
    exact fun node hnode => hback node (List.mem_reverse.mp hnode)
  rw [ClientUnit.program?, hpath, List.reverse_append, List.reverse_cons, List.findSome?_append,
    List.findSome?_append, hnone]
  rfl

/-- Behind the program a unit is reached through nodes that are no programs. -/
theorem liesIn_of_append {front back : List PathNode} {program : Program} {content : UnitContent}
    (hback : ∀ node ∈ back, PathNode.program? node = none) :
    (ClientUnit.mk (front ++ [.program program] ++ back) content).LiesIn program :=
  ⟨front, back, List.append_assoc _ _ _, hback⟩

theorem liesIn_of_mem_instructionUnits {program : Program} {front : List PathNode}
    {part : ClientUnit} {instructions : List Instruction} : ∀ {known : List String},
    part ∈ instructionUnits (front ++ [.program program]) known instructions →
      part.LiesIn program := by
  -- The names met so far change from one instruction to the next, the way to the program does not.
  induction instructions with
  | nil =>
    intro known h
    cases h
  | cons instruction instructions ih =>
    intro known h
    simp only [instructionUnits, List.cons_append, List.mem_cons, List.mem_append,
      List.mem_map] at h
    rcases h with rfl | ⟨pda, -, rfl⟩ | h
    · exact liesIn_of_append (by simp [PathNode.program?])
    · rw [List.append_assoc _ [PathNode.instruction instruction]]
      exact liesIn_of_append (by simp [PathNode.program?])
    · exact ih h

theorem liesIn_of_mem_units {program : Program} {front : List PathNode} {part : ClientUnit}
    (h : part ∈ program.units front) : part.LiesIn program := by
  simp only [Idl.Program.units, List.mem_append, List.mem_map] at h
  rcases h with ((((h | h) | ⟨account, -, rfl⟩) | ⟨type, -, rfl⟩) | ⟨pda, -, rfl⟩) | h
  · obtain rfl := List.mem_singleton.mp h
    exact ⟨front, [], rfl, by simp⟩
  · split at h
    · cases h
    · obtain rfl := List.mem_singleton.mp h
      exact ⟨front, [], rfl, by simp⟩
  · exact liesIn_of_append (by simp [PathNode.program?])
  · exact liesIn_of_append (by simp [PathNode.program?])
  · exact liesIn_of_append (by simp [PathNode.program?])
  · exact liesIn_of_mem_instructionUnits h

/-- **A unit belongs to a program** of the description. -/
theorem exists_program_of_mem_units {root : Root} {part : ClientUnit} (h : part ∈ root.units) :
    ∃ program ∈ root.programs, part.program? = some program := by
  obtain ⟨program, hprogram, h⟩ := List.mem_flatMap.mp h
  exact ⟨program, hprogram, (liesIn_of_mem_units h).program?_eq⟩

/-- A program has a unit for its constants. -/
theorem exists_programUnit {root : Root} {program : Program} (h : program ∈ root.programs) :
    ∃ part ∈ root.units, part.content = .program ∧ part.program? = some program := by
  have hmem : (⟨[.root root, .program program], .program⟩ : ClientUnit) ∈
      program.units [.root root] := by
    simp [Idl.Program.units]
  exact ⟨_, List.mem_flatMap.mpr ⟨program, h, hmem⟩, rfl, (liesIn_of_mem_units hmem).program?_eq⟩

/-- A declared type has a unit. -/
theorem exists_typeUnit {root : Root} {program : Program} {type : DefinedType}
    (h : program ∈ root.programs) (htype : type ∈ program.definedTypes) :
    ∃ part ∈ root.units, part.content = .definedType type ∧ part.program? = some program := by
  have hmem : (⟨[.root root, .program program, .definedType type], .definedType type⟩ :
      ClientUnit) ∈ program.units [.root root] := by
    simp [Idl.Program.units, htype]
  exact ⟨_, List.mem_flatMap.mpr ⟨program, h, hmem⟩, rfl, (liesIn_of_mem_units hmem).program?_eq⟩

/-! ## The dictionary -/

/-- What a table made of a list holds stands in the list. -/
theorem mem_of_getElem?_ofList {α : Type} {entries : List (String × α)} {key : String} {value : α}
    (h : (Std.ExtTreeMap.ofList entries)[key]? = some value) : (key, value) ∈ entries := by
  suffices hmany : ∀ table : Std.ExtTreeMap String α,
      (table.insertMany entries)[key]? = some value →
        table[key]? = some value ∨ (key, value) ∈ entries by
    rw [Std.ExtTreeMap.ofList_eq_insertMany_empty] at h
    rcases hmany ∅ h with h | h
    · simp at h
    · exact h
  clear h
  induction entries with
  | nil =>
    intro table h
    exact .inl (by simpa using h)
  | cons entry entries ih =>
    intro table h
    rw [Std.ExtTreeMap.insertMany_cons] at h
    rcases ih _ h with hfirst | hmem
    · rw [Std.ExtTreeMap.getElem?_insert] at hfirst
      split at hfirst
      case isTrue hkey =>
        obtain rfl := Std.LawfulEqCmp.eq_of_compare hkey
        obtain rfl := Option.some.inj hfirst
        exact .inr List.mem_cons_self
      case isFalse => exact .inl hfirst
    · exact .inr (List.mem_cons_of_mem _ hmem)

namespace Dictionary

/-- Every entry is that of a recorded program. -/
theorem exists_program_of_program? {programs : List Program} {name : String} {entry : ProgramEntry}
    (h : (ofPrograms programs).program? name = some entry) :
    ∃ program ∈ programs, entry = .ofProgram program ∧ program.name = name := by
  rw [program?_ofPrograms] at h
  obtain ⟨program, hfound, rfl⟩ := Option.map_eq_some_iff.mp h
  exact ⟨program, List.mem_of_find?_eq_some hfound, rfl, by simpa using List.find?_some hfound⟩

/-- **What a link leads to is declared by a program** under the name that the link gives. -/
theorem exists_program_of_definedType? {root : Root} {program link : String}
    {linkedProgram : Option String} {defined : DefinedType}
    (h : (ofRoot root).definedType? program link linkedProgram = some defined) :
    ∃ program ∈ root.programs, defined ∈ program.definedTypes ∧ defined.name = link := by
  obtain ⟨entry, hentry, h⟩ := Option.bind_eq_some_iff.mp h
  obtain ⟨program, hprogram, rfl, -⟩ := exists_program_of_program? hentry
  obtain ⟨type, htype, hpair⟩ := List.mem_map.mp (mem_of_getElem?_ofList h)
  obtain ⟨rfl, rfl⟩ := Prod.mk.inj hpair
  exact ⟨program, hprogram, htype, rfl⟩

end Dictionary

/-! ## Pages -/

variable {root : Root} {settings : Settings} {part : ClientUnit} {page : Page}

/-- **In a complete client every unit has its pages.** -/
theorem exists_pages_of_mem_units (hcomplete : (generateClient root settings).isComplete = true)
    (hpart : part ∈ root.units) : ∃ rendering,
    part.generate (.ofRoot root) settings = .ok rendering ∧
      ∀ page ∈ rendering.pages, page ∈ clientPages (unitResults root settings) settings := by
  have hfailures : (unitResults root settings).filterMap UnitResult.failure? = [] :=
    List.isEmpty_iff.mp hcomplete
  let result : UnitResult := ⟨part, part.generate (.ofRoot root) settings⟩
  have hresult : result ∈ unitResults root settings := List.mem_map_of_mem hpart
  cases hgenerate : part.generate (.ofRoot root) settings with
  | error error =>
    have hnone := List.filterMap_eq_nil_iff.mp hfailures result hresult
    simp [result, UnitResult.failure?, hgenerate] at hnone
  | ok rendering =>
    refine ⟨rendering, rfl, fun page hpage => ?_⟩
    have hpages : page ∈ result.pages := by
      simpa [result, UnitResult.pages, hgenerate] using hpage
    exact List.mem_append_left _
      (List.mem_cons_of_mem _ (List.mem_flatMap.mpr ⟨result, hresult, hpages⟩))

/-- A page of a client holds the encoders, belongs to a unit, or is that of the library. -/
theorem exists_unit_of_mem_clientPages
    (hpage : page ∈ clientPages (unitResults root settings) settings) :
    page = encoderPage ∨ (∃ paths, page = libraryIndex paths settings.libraryName) ∨
      ∃ part ∈ root.units, ∃ rendering,
        part.generate (.ofRoot root) settings = .ok rendering ∧ page ∈ rendering.pages := by
  rcases List.mem_append.mp hpage with hpage | hpage
  · rcases List.mem_cons.mp hpage with rfl | hpage
    · exact .inl rfl
    · obtain ⟨result, hresult, hpage⟩ := List.mem_flatMap.mp hpage
      obtain ⟨part, hpart, rfl⟩ := List.mem_map.mp hresult
      unfold UnitResult.pages at hpage
      split at hpage
      case h_1 rendering hgenerate => exact .inr (.inr ⟨part, hpart, rendering, hgenerate, hpage⟩)
      case h_2 => cases hpage
  · exact .inr (.inl ⟨_, List.mem_singleton.mp hpage⟩)

/-! ## Files -/

/-- The description of the package has a path of its own. -/
theorem pubspecPath_ne_clientPath (settings : Settings) (page : Page) :
    pubspecPath ≠ clientPath settings page := by
  intro h
  have hslash : '/' ∈ pubspecPath.toList := by
    rw [h, clientPath]
    simp
  revert hslash
  decide

/-- **The files are those of the pages**, and the description of the package. -/
theorem mem_clientFiles {pages : List Page} {program path : String} :
    path ∈ clientFiles pages settings program ↔
      path = pubspecPath ∨ ∃ page ∈ pages, clientPath settings page = path := by
  rw [clientFiles, Std.ExtTreeMap.mem_insert, Std.LawfulEqCmp.compare_eq_iff_eq,
    Std.ExtTreeMap.mem_ofList, List.contains_iff_mem, List.map_map, List.mem_map, eq_comm]
  rfl

end DartClient
