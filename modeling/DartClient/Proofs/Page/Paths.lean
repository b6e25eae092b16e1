import DartClient.Manifest.Resolve
import DartClient.Module
import DartClient.Proofs.Text.Words
import DartClient.Seed.Encoding
import DartClient.Settings

/-!
# Where relative paths lead

A file names another one by a path that is relative to its own folder. Such a path is followed part
by part, behind the parts of the folder itself: two dots lead one folder up, one dot stays, and
everything else goes down; an empty name between two slashes is a part like any other. A path from
the root of the library goes up as many folders as the importing file is deep. If no folder of that
file is written with dots, this leads to the root, and the path is followed from there; if it has no
dots of its own, it leads back to where it says.

The files that are named in this way are those with the encoders of numbers, with types, with
variants and with programs. Their paths are free of dots whatever types and programs are called,
and none is an alias.

## Main definitions

* `pathParts`: the parts of a path.
* `followedPath?`: where a path leads from a file.
* `IsGenerated`: the files that others name.

## Main results

* `not_mem_fileStem`: what the names of files never hold.
* `followedPath?_up`: a path that goes up as many folders as there are is followed from the root.
* `followedPath?_relativeModule`: a path from the root of the library leads where it says.
* `IsGenerated.isPlain`, `IsGenerated.isLibraryPath`: this is so for all files that others name.
-/

namespace DartClient

/-! ## Following paths -/

/-- The parts of a path. -/
def pathParts (path : String) : List (List Char) := path.toList.splitOn '/'

/-- One part of a path, followed from a folder. -/
def followPart (folder : List (List Char)) (part : List Char) : Option (List (List Char)) :=
  if part = ['.', '.'] then
    if folder = [] then none else some folder.dropLast
  else if part = ['.'] then some folder
  else some (folder ++ [part])

/-- Where a path leads from a file: into the folder of the file, and on from there. It may not lead
out of the library on the way. -/
def followedPath? (path module : String) : Option String :=
  (((pathParts path).dropLast ++ pathParts module).foldlM followPart []).map fun parts =>
    String.ofList (['/'].intercalate parts)

/-- No part of a path stands for another folder. -/
def IsPlain (path : String) : Prop := ∀ part ∈ pathParts path, part ≠ ['.'] ∧ part ≠ ['.', '.']

instance (path : String) : Decidable (IsPlain path) :=
  inferInstanceAs (Decidable (∀ part ∈ pathParts path, part ≠ ['.'] ∧ part ≠ ['.', '.']))

theorem pathParts_append (path rest : String) :
    pathParts (path ++ "/" ++ rest) = pathParts path ++ pathParts rest := by
  rw [pathParts, String.toList_append, String.toList_append, List.append_assoc]
  exact List.splitOn_append_cons_self _ _

theorem pathParts_of_not_mem {name : String} (h : '/' ∉ name.toList) :
    pathParts name = [name.toList] := List.splitOn_eq_singleton h

theorem length_splitOn (separator : Char) (text : List Char) :
    (text.splitOn separator).length = text.count separator + 1 := by
  induction text with
  | nil => rfl
  | cons c text ih =>
    rw [List.splitOn_cons_eq_if_modifyHead, List.count_cons]
    split
    case isTrue => rw [List.length_cons, ih]
    case isFalse => rw [List.length_modifyHead, ih, Nat.add_zero]

/-- Going up as many folders as there are leads to the root. -/
theorem foldlM_followPart_up (count : Nat) : ∀ {folder : List (List Char)}, folder.length = count →
    (List.replicate count ['.', '.']).foldlM followPart folder = some [] := by
  -- Each step up takes the last part of the folder, so the folder is general.
  induction count with
  | zero =>
    intro folder hlength
    rw [List.eq_nil_of_length_eq_zero hlength]
    rfl
  | succ count ih =>
    intro folder hlength
    have hne : folder ≠ [] := List.ne_nil_of_length_eq_add_one hlength
    have hstep : followPart folder ['.', '.'] = some folder.dropLast := by
      rw [followPart, if_pos rfl, if_neg hne]
    rw [List.replicate_succ, List.foldlM_cons, hstep]
    exact ih (by rw [List.length_dropLast, hlength, Nat.add_sub_cancel])

/-- Plain parts go down. -/
theorem foldlM_followPart_down {parts : List (List Char)} :
    ∀ {folder : List (List Char)}, (∀ part ∈ parts, part ≠ ['.'] ∧ part ≠ ['.', '.']) →
      parts.foldlM followPart folder = some (folder ++ parts) := by
  -- The folder takes up the parts that have been followed.
  induction parts with
  | nil =>
    intro folder _
    rw [List.append_nil]
    rfl
  | cons part parts ih =>
    intro folder hplain
    obtain ⟨⟨hdot, hdots⟩, hplain⟩ := List.forall_mem_cons.mp hplain
    have hstep : followPart folder part = some (folder ++ [part]) := by
      rw [followPart, if_neg hdots, if_neg hdot]
    rw [List.foldlM_cons, hstep]
    exact (ih hplain).trans (by rw [List.append_assoc, List.singleton_append])

theorem pathParts_up (count : Nat) (module : String) :
    pathParts (String.join (List.replicate count "../") ++ module) =
      List.replicate count ['.', '.'] ++ pathParts module := by
  induction count with
  | zero => simp
  | succ count ih =>
    have hup : String.join (List.replicate (count + 1) "../") ++ module =
        ".." ++ "/" ++ (String.join (List.replicate count "../") ++ module) := by
      rw [List.replicate_succ, String.join_cons, String.append_assoc]
      rfl
    rw [hup, pathParts_append, ih, List.replicate_succ]
    rfl

/-- The folders of a file that has no dots lead to where they are. -/
theorem foldlM_followPart_folder {path : String} (hpath : IsPlain path)
    (parts : List (List Char)) : ((pathParts path).dropLast ++ parts).foldlM followPart [] =
      parts.foldlM followPart (pathParts path).dropLast := by
  have hfolder : (pathParts path).dropLast.foldlM followPart [] = some (pathParts path).dropLast :=
    foldlM_followPart_down fun part hpart => hpath part (List.dropLast_subset _ hpart)
  rw [List.foldlM_append, hfolder]
  rfl

/-- **A path that goes up as many folders as there are** is followed from the root. -/
theorem followedPath?_up {path : String} (hpath : IsPlain path) (module : String) :
    followedPath? path (String.join (List.replicate (path.toList.count '/') "../") ++ module) =
      followedPath? "" module := by
  -- A file lies in as many folders as its path has slashes.
  have hdepth : path.toList.count '/' = (pathParts path).dropLast.length := by
    rw [List.length_dropLast, pathParts, length_splitOn]
    rfl
  rw [followedPath?, foldlM_followPart_folder hpath, pathParts_up, List.foldlM_append, hdepth,
    foldlM_followPart_up _ rfl]
  rfl

/-- A path without dots leads from the root to where it says. -/
theorem followedPath?_root {module : String} (hplain : IsPlain module) :
    followedPath? "" module = some module := by
  have hdown : (pathParts module).foldlM followPart [] = some (pathParts module) :=
    foldlM_followPart_down hplain
  have hroot : (pathParts "").dropLast = [] := rfl
  rw [followedPath?, hroot, List.nil_append, hdown, Option.map_some, pathParts,
    List.intercalate_splitOn, String.ofList_toList]

/-- **A path from the root of the library leads where it says**, from every file whose own path has
no dots. -/
theorem followedPath?_relativeModule {path module : String} {aliases : Aliases}
    (hpath : IsPlain path) (hlibrary : isLibraryPath module aliases = true)
    (hplain : IsPlain module) :
    followedPath? path (relativeModule module path aliases) = some module := by
  rw [relativeModule, if_pos hlibrary, followedPath?_up hpath, followedPath?_root hplain]

/-- A path without dots leads further down from the folder of a file. -/
theorem followedPath?_of_isPlain {folder file module : String} (hfolder : IsPlain folder)
    (hfile : '/' ∉ file.toList) (hplain : IsPlain module) :
    followedPath? (folder ++ "/" ++ file) module = some (folder ++ "/" ++ module) := by
  have hdown : (pathParts folder ++ pathParts module).foldlM followPart [] =
      some (pathParts folder ++ pathParts module) :=
    foldlM_followPart_down (List.forall_mem_append.mpr ⟨hfolder, hplain⟩)
  rw [followedPath?, pathParts_append, pathParts_of_not_mem hfile, List.dropLast_concat, hdown,
    Option.map_some, ← pathParts_append, pathParts, List.intercalate_splitOn, String.ofList_toList]

/-! ## Generated files -/

/-- The aliases that generated code uses. -/
def aliasNames : List String := ["borsh", "dartConvert", "dartTypedData", "solana", "solanaEncoder"]

theorem contains_defaultAliases {module : String} :
    Settings.defaultAliases.contains module = true ↔ module ∈ aliasNames := by
  rw [Settings.defaultAliases, Std.ExtTreeMap.contains_ofList, List.contains_iff_mem]
  rfl

theorem dot_not_mem_of_contains {module : String}
    (h : Settings.defaultAliases.contains module = true) : '.' ∉ module.toList := by
  have hnames : ∀ name ∈ aliasNames, '.' ∉ name.toList := by decide
  exact hnames module (contains_defaultAliases.mp h)

/-- The file is one that other files name. -/
inductive IsGenerated : String → Prop
  | encoders : IsGenerated encoderModule
  | type (name : String) : IsGenerated (generatedModule "types" (fileStem name))
  | variant (name variant : String) :
    IsGenerated (generatedModule ("types/" ++ fileStem name) (fileStem variant))
  | program (name : String) : IsGenerated (generatedModule "programs" (fileStem name))

/-- **A file name holds no slash, no backslash and no dot**, whatever it is made of. -/
theorem not_mem_fileStem (name : String) {c : Char} (hc : c ∈ ['/', '\\', '.']) :
    c ∉ (fileStem name).toList := by
  simp only [List.mem_cons, List.not_mem_nil, or_false] at hc
  rcases hc with rfl | rfl | rfl <;>
    exact Text.not_mem_snake (by decide) (by decide) (by decide) (by decide)

theorem slash_not_mem_fileStem (name : String) : '/' ∉ (fileStem name).toList :=
  not_mem_fileStem name (by decide)

theorem dot_not_mem_fileStem (name : String) : '.' ∉ (fileStem name).toList :=
  not_mem_fileStem name (by decide)

theorem slash_not_mem_file (name : String) : '/' ∉ (fileStem name ++ ".dart").toList := by
  rw [String.toList_append, List.mem_append]
  rintro (h | h)
  · exact slash_not_mem_fileStem name h
  · revert h
    decide

theorem pathParts_generatedModule (folder name : String) :
    pathParts (generatedModule folder (fileStem name)) =
      pathParts folder ++ [(fileStem name).toList ++ ".dart".toList] := by
  rw [generatedModule, String.append_assoc, pathParts_append,
    pathParts_of_not_mem (slash_not_mem_file name), String.toList_append]

theorem isPlain_generatedModule {folder : String} (hfolder : IsPlain folder) (name : String) :
    IsPlain (generatedModule folder (fileStem name)) := by
  intro part hpart
  rw [pathParts_generatedModule] at hpart
  rcases List.mem_append.mp hpart with hpart | hpart
  · exact hfolder part hpart
  · -- The end of the name is longer than any dots.
    have hlength : 5 ≤ part.length := by
      rw [List.mem_singleton.mp hpart]
      simp
    constructor <;>
      · rintro rfl
        simp at hlength

theorem isPlain_append {folder name : String} (hfolder : IsPlain folder) (hname : IsPlain name) :
    IsPlain (folder ++ "/" ++ name) := by
  intro part hpart
  rw [pathParts_append] at hpart
  rcases List.mem_append.mp hpart with hpart | hpart
  · exact hfolder part hpart
  · exact hname part hpart

theorem isPlain_fileStem (name : String) : IsPlain (fileStem name) := by
  intro part hpart
  rw [pathParts_of_not_mem (slash_not_mem_fileStem name), List.mem_singleton] at hpart
  have hdot : '.' ∉ part := by
    rw [hpart]
    exact dot_not_mem_fileStem name
  constructor <;>
    · rintro rfl
      exact hdot List.mem_cons_self

namespace IsGenerated

variable {module : String}

theorem isPlain (h : IsGenerated module) : IsPlain module := by
  have htypes : IsPlain "types" := by decide
  have hprograms : IsPlain "programs" := by decide
  cases h with
  | encoders => decide
  | type name => exact isPlain_generatedModule htypes name
  | variant name variant =>
    exact isPlain_generatedModule (isPlain_append htypes (isPlain_fileStem name)) variant
  | program name => exact isPlain_generatedModule hprograms name

/-- The path of a generated file begins with `s`, `t` or `pr`. -/
theorem exists_toList_eq (h : IsGenerated module) : ∃ rest,
    module.toList = 's' :: rest ∨ module.toList = 't' :: rest ∨
      module.toList = 'p' :: 'r' :: rest := by
  cases h with
  | encoders => exact ⟨_, .inl rfl⟩
  | type | variant | program => simp [generatedModule]

/-- The path of a generated file ends in an extension, which no alias has. -/
theorem dot_mem_toList (h : IsGenerated module) : '.' ∈ module.toList := by
  cases h with
  | encoders => decide
  | type | variant | program => simp [generatedModule]

/-- The path of a generated file is neither an alias nor one of a package or of the language. -/
theorem isLibraryPath (h : IsGenerated module) :
    isLibraryPath module Settings.defaultAliases = true := by
  have halias : Settings.defaultAliases.contains module = false := by
    rw [Bool.eq_false_iff]
    exact fun hcontains => dot_not_mem_of_contains hcontains h.dot_mem_toList
  obtain ⟨rest, hrest⟩ := h.exists_toList_eq
  have hstarts : ∀ start ∈ ["dart:", "package:", "./", "../"],
      module.startsWith start = false := by
    intro start hstart
    rw [Bool.eq_false_iff, ne_eq, String.startsWith_string_iff]
    simp only [List.mem_cons, List.not_mem_nil, or_false] at hstart
    rcases hstart with rfl | rfl | rfl | rfl <;> rcases hrest with hrest | hrest | hrest <;>
      simp [hrest]
  simp only [List.forall_mem_cons] at hstarts
  simp [DartClient.isLibraryPath, halias, hstarts]

end IsGenerated

end DartClient
