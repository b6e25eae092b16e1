import DartClient.Proofs.Imports.Symbols

/-!
# Merging imports is a join

Whatever adding, removing, merging and renaming lead to has no empty set of symbols. Such imports
are told apart by the modules that they import as a whole and by the symbols that they import, and
merging is the disjunction of both. So merging has the laws of a join, and what is merged of many
files does not depend on how the files are arranged.

## Main definitions

* `ImportMap.Reachable`: imports that the operations lead to.

## Main results

* `ImportMap.Reachable.proper`: no set of symbols is empty in them.
* `ImportMap.eq_of_contains_iff`: they are told apart by what they import.
* `ImportMap.merge_join`: the laws of merging.
-/

namespace DartClient

namespace Imported

variable {imported other : Option Imported} {symbols : List String}

/-- Removing drops a module of which no symbol is left. -/
theorem proper_remove : Proper (remove symbols imported) := by
  intro names hnames
  rcases imported with _ | _ | names'
  · cases hnames
  · cases hnames
  · simp only [remove] at hnames
    split at hnames
    case isTrue => cases hnames
    case isFalse hempty =>
      obtain rfl := Imported.symbols.inj (Option.some.inj hnames)
      refine Classical.byContradiction fun hnone => hempty ?_
      exact Std.ExtTreeSet.isEmpty_iff.mpr
        (Std.ExtTreeSet.eq_empty_iff_forall_not_mem.mpr (not_exists.mp hnone))

/-- What is imported of a module is told by whether all of it is, and by its symbols. -/
theorem eq_of_brings_iff (h : Proper imported) (hother : Proper other)
    (hwhole : imported = some .everything ↔ other = some .everything)
    (hbrings : ∀ symbol, Brings imported symbol ↔ Brings other symbol) : imported = other := by
  rcases imported with _ | _ | names
  · rcases other with _ | _ | names'
    · rfl
    · cases hwhole.mpr rfl
    · -- A set of symbols holds one, which nothing does not bring.
      obtain ⟨symbol, hsymbol⟩ := hother names' rfl
      exact ((hbrings symbol).mpr hsymbol).elim
  · exact (hwhole.mp rfl).symm
  · rcases other with _ | _ | names'
    · obtain ⟨symbol, hsymbol⟩ := h names rfl
      exact ((hbrings symbol).mp hsymbol).elim
    · cases hwhole.mpr rfl
    · exact congrArg (some ∘ Imported.symbols) (Std.ExtTreeSet.ext_mem hbrings)

end Imported

namespace ImportMap

/-- The imports can be made by the operations, beginning with none. -/
inductive Reachable : ImportMap → Prop
  | empty : Reachable .empty
  | add {imports} (h : Reachable imports) (module : String) (symbols : List String) :
    Reachable (imports.add module symbols)
  | addModule {imports} (h : Reachable imports) (module : String) :
    Reachable (imports.addModule module)
  | remove {imports} (h : Reachable imports) (module : String) (symbols : List String) :
    Reachable (imports.remove module symbols)
  | removeModule {imports} (h : Reachable imports) (module : String) :
    Reachable (imports.removeModule module)
  | removeSymbols {imports} (h : Reachable imports) (symbols : List String) :
    Reachable (imports.removeSymbols symbols)
  | merge {imports other} (h : Reachable imports) (hother : Reachable other) :
    Reachable (imports.merge other)
  | merged {maps} (h : ∀ map ∈ maps, Reachable map) : Reachable (.merged maps)
  | mapModules {imports} (h : Reachable imports) (rename : String → String) :
    Reachable (imports.mapModules rename)
  | resolve {imports} (h : Reachable imports) (aliases : Aliases) :
    Reachable (imports.resolve aliases)

variable {imports other a b c : ImportMap} {module : String} {symbols : List String}
  {maps maps' : List ImportMap}

/-! ## Proper imports -/

theorem Proper.remove (h : imports.Proper) : (imports.remove module symbols).Proper := by
  intro key
  rw [get?_remove]
  split
  · exact Imported.proper_remove
  · exact h key

theorem Proper.removeModule (h : imports.Proper) : (imports.removeModule module).Proper := by
  intro key
  rw [get?_removeModule]
  split
  · intro names hnames
    cases hnames
  · exact h key

theorem Proper.removeSymbols (h : imports.Proper) : (imports.removeSymbols symbols).Proper := by
  rw [ImportMap.removeSymbols]
  generalize imports.toList = entries
  induction entries generalizing imports with
  | nil => exact h
  | cons entry entries ih => exact ih h.remove

theorem Proper.merge (h : imports.Proper) : (imports.merge other).Proper :=
  h.foldl_addImported fun key => key

theorem Proper.foldl_merge (h : imports.Proper) : (maps.foldl ImportMap.merge imports).Proper := by
  induction maps generalizing imports with
  | nil => exact h
  | cons first maps ih => exact ih h.merge

theorem proper_merged : (merged maps).Proper := proper_empty.foldl_merge

/-- **Proper imports are told apart by what they import.** -/
theorem eq_of_contains_iff (ha : a.Proper) (hb : b.Proper)
    (hwhole : ∀ module, a.Whole module ↔ b.Whole module)
    (hcontains : ∀ module symbol,
      a.contains module symbol = true ↔ b.contains module symbol = true) : a = b := by
  have hget : ∀ module, a.get? module = b.get? module := by
    intro module
    refine Imported.eq_of_brings_iff (ha module) (hb module) (hwhole module) fun symbol => ?_
    rw [← contains_iff, ← contains_iff, hcontains]
  exact congrArg ImportMap.mk (Std.ExtTreeMap.ext_getElem? hget)

/-- No operation leaves an empty set of symbols behind. -/
theorem Reachable.proper (h : imports.Reachable) : imports.Proper := by
  induction h with
  | empty => exact proper_empty
  | add _ _ _ ih => exact ih.add
  | addModule _ _ ih => exact ih.addModule
  | remove _ _ _ ih => exact ih.remove
  | removeModule _ _ ih => exact ih.removeModule
  | removeSymbols _ _ ih => exact ih.removeSymbols
  | merge _ _ ih _ => exact ih.merge
  | merged _ _ => exact proper_merged
  | mapModules _ _ _ => exact proper_mapModules _
  | resolve _ _ _ => exact proper_mapModules _

/-! ## Merging -/

theorem merge_comm (ha : a.Proper) (hb : b.Proper) : a.merge b = b.merge a :=
  eq_of_contains_iff ha.merge hb.merge
    (fun module => by rw [whole_merge, whole_merge, or_comm])
    (fun module symbol => by rw [contains_merge, contains_merge, or_comm])

theorem merge_assoc (ha : a.Proper) : (a.merge b).merge c = a.merge (b.merge c) :=
  eq_of_contains_iff ha.merge.merge ha.merge
    (fun module => by simp only [whole_merge, or_assoc])
    (fun module symbol => by simp only [contains_merge, or_assoc])

theorem merge_self (ha : a.Proper) : a.merge a = a :=
  eq_of_contains_iff ha.merge ha
    (fun module => by rw [whole_merge, or_self])
    (fun module symbol => by rw [contains_merge, or_self])

theorem merge_empty (ha : a.Proper) : a.merge empty = a :=
  eq_of_contains_iff ha.merge ha
    (fun module => by simp)
    (fun module symbol => by simp)

theorem empty_merge (ha : a.Proper) : empty.merge a = a := by
  rw [merge_comm proper_empty ha, merge_empty ha]

theorem whole_foldl_merge : (maps.foldl merge imports).Whole module ↔
    imports.Whole module ∨ ∃ map ∈ maps, map.Whole module := by
  induction maps generalizing imports with
  | nil => simp
  | cons first maps ih =>
    rw [List.foldl_cons, ih, whole_merge, or_assoc]
    simp only [List.mem_cons, exists_eq_or_imp]

theorem contains_foldl_merge {symbol : String} :
    (maps.foldl merge imports).contains module symbol = true ↔
      imports.contains module symbol = true ∨
        ∃ map ∈ maps, map.contains module symbol = true := by
  induction maps generalizing imports with
  | nil => simp
  | cons first maps ih =>
    rw [List.foldl_cons, ih, contains_merge, or_assoc]
    simp only [List.mem_cons, exists_eq_or_imp]

theorem whole_merged : (merged maps).Whole module ↔ ∃ map ∈ maps, map.Whole module :=
  whole_foldl_merge.trans (by simp)

theorem contains_merged {symbol : String} : (merged maps).contains module symbol = true ↔
    ∃ map ∈ maps, map.contains module symbol = true :=
  contains_foldl_merge.trans (by simp)

/-- What is merged of several files depends on nothing but which files these are. -/
theorem merged_congr (h : ∀ map, map ∈ maps ↔ map ∈ maps') : merged maps = merged maps' :=
  eq_of_contains_iff proper_merged proper_merged
    (fun module => by simp only [whole_merged, h])
    (fun module symbol => by simp only [contains_merged, h])

/-- **Merging imports is a join.** For imports that the operations lead to, merging is commutative,
associative and idempotent, and merging with no imports changes nothing. What is merged of several
files depends only on which files these are, not on their order or on repetitions. It imports a
module as a whole if and only if one of the files does, and a symbol of a module if and only if one
of the files does, where a whole module brings every symbol of it. -/
theorem merge_join (ha : a.Reachable) (hb : b.Reachable)
    (hmaps : ∀ map, map ∈ maps ↔ map ∈ maps') :
    a.merge b = b.merge a ∧ (a.merge b).merge c = a.merge (b.merge c) ∧ a.merge a = a ∧
      a.merge empty = a ∧ empty.merge a = a ∧ merged maps = merged maps' ∧
      ∀ module, ((merged maps).Whole module ↔ ∃ map ∈ maps, map.Whole module) ∧
        ∀ symbol, (merged maps).contains module symbol = true ↔
          ∃ map ∈ maps, Imported.Brings (map.get? module) symbol := by
  have ha := ha.proper
  have hb := hb.proper
  refine ⟨merge_comm ha hb, merge_assoc ha, merge_self ha, merge_empty ha, empty_merge ha,
    merged_congr hmaps, fun module => ⟨whole_merged, fun symbol => ?_⟩⟩
  rw [contains_merged]
  simp only [contains_iff]

/-- The imports of a file that converts texts and uses all of a package. -/
def converting : ImportMap :=
  (empty.add "dart:convert" ["utf8"]).addModule "package:solana/solana.dart"

/-- The imports of a file that uses one class of that package. -/
def signing : ImportMap :=
  (empty.add "package:solana/solana.dart" ["Wallet"]).add "dart:convert" ["json", "utf8"]

/-- A module that is whole in one of the files absorbs the symbols that the other one shows. -/
theorem merge_join_signing :
    converting.merge signing = signing.merge converting ∧ converting.merge converting = converting ∧
      merged [converting, signing] = merged [signing, converting, signing] ∧
      (merged [converting, signing]).Whole "package:solana/solana.dart" ∧
      (merged [converting, signing]).contains "dart:convert" "json" = true ∧
      ¬ (merged [converting, signing]).Whole "dart:convert" := by
  have hconverting : converting.Reachable := (Reachable.empty.add _ _).addModule _
  have hsigning : signing.Reachable := (Reachable.empty.add _ _).add _ _
  have hmaps : ∀ map, map ∈ [converting, signing] ↔ map ∈ [signing, converting, signing] := by
    simp [or_comm]
  obtain ⟨hcomm, -, hself, -, -, hmerged, hmodules⟩ :=
    merge_join (c := empty) hconverting hsigning hmaps
  refine ⟨hcomm, hself, hmerged, (hmodules _).1.mpr ?_, ((hmodules _).2 _).mpr ?_, ?_⟩
  · exact ⟨converting, List.mem_cons_self, by simp [converting]⟩
  · exact ⟨signing, by simp, by rw [← contains_iff]; simp [signing]⟩
  · rw [(hmodules _).1]
    simp [converting, signing]

end ImportMap

end DartClient
