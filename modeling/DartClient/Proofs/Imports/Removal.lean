import DartClient.Proofs.Imports.Join
import DartClient.Proofs.Text.Words

/-!
# Removing imports

No operation leaves a module with an empty set of symbols: adding no symbols to a module that is not
there does not create it, and removing the last symbol of a module drops it. So every list of
symbols that is written down has an entry.

Removing is exact. The pairs of a module and one of its symbols that are named are taken away and no
others, whole modules stay as they are, and naming symbols of a module that has none changes
nothing. Removing symbols of all modules goes through the modules one by one and does the same for
each.

## Main definitions

* `ImportMap.LacksOnly`: imports lack some pairs of modules and symbols, and are the same otherwise.

## Main results

* `ImportMap.entry_of_mem_lines`: what is written down is the imports, line by line.
* `ImportMap.lacksOnly_remove`, `ImportMap.lacksOnly_removeSymbols`: removing is exact.
* `ImportMap.removal_spec`: no set of symbols is empty, and removing is exact.
-/

namespace DartClient.ImportMap

variable {imports other : ImportMap} {module key symbol line : String} {symbols : List String}

/-! ## Removing -/

/-- Imports lack some of the pairs of modules and symbols that others have, and are the same
otherwise: the same modules are whole, and all other pairs are there. -/
structure LacksOnly (removed : String → String → Prop) (imports other : ImportMap) : Prop where
  whole : ∀ module, imports.Whole module ↔ other.Whole module
  shown : ∀ module symbol,
    imports.ShownFrom module symbol ↔ other.ShownFrom module symbol ∧ ¬ removed module symbol

/-- **Removing symbols of a module** takes away the pairs of the module and one of them. -/
theorem lacksOnly_remove : LacksOnly (fun module symbol => key = module ∧ symbol ∈ symbols)
    (imports.remove key symbols) imports where
  whole module := whole_remove
  shown module symbol := by
    rw [shownFrom_iff, shownFrom_iff, contains_remove, whole_remove]
    grind

/-- **Removing symbols of all modules** takes away the pairs of any module and one of them. -/
theorem lacksOnly_removeSymbols :
    LacksOnly (fun _ symbol => symbol ∈ symbols) (imports.removeSymbols symbols) imports where
  whole module := whole_removeSymbols
  shown module symbol := by
    rw [shownFrom_iff, shownFrom_iff, contains_removeSymbols, whole_removeSymbols]
    grind

/-- A module without symbols, which is whole or not there, is left as it is. -/
theorem remove_eq_self (h : ∀ names, imports.get? key ≠ some (.symbols names)) :
    imports.remove key symbols = imports := by
  -- Of a module that is not there, taking symbols away leaves nothing, so no entry comes up.
  have hsame : Imported.remove symbols (imports.get? key) = imports.get? key := by
    cases hget : imports.get? key with
    | none => rfl
    | some imported =>
      cases imported with
      | everything => rfl
      | symbols names => exact absurd hget (h names)
  refine congrArg ImportMap.mk (Std.ExtTreeMap.ext_getElem? fun module => ?_)
  have hget : (imports.remove key symbols).get? module = imports.get? module := by
    rw [get?_remove]
    split
    case isTrue hkey => rw [hsame, hkey]
    case isFalse => rfl
  exact hget

/-! ## What is written down -/

theorem mem_groupLines {group : ModuleGroup} : line ∈ imports.groupLines group ↔
    ∃ module imported, imports.get? module = some imported ∧ groupOf module = group ∧
      line = renderLine module imported := by
  simp only [groupLines, List.mem_filterMap, Prod.exists, mem_toList, Option.ite_none_right_eq_some,
    Option.some.injEq, eq_comm (a := line)]

/-- A line is empty or an import. -/
theorem entry_of_mem_lines (h : line ∈ imports.lines) (hline : line ≠ "") :
    ∃ module imported, imports.get? module = some imported ∧ line = renderLine module imported := by
  rcases Text.mem_of_mem_intercalate h with h | ⟨lines, hlines, h⟩
  · exact absurd (List.mem_singleton.mp h) hline
  · obtain ⟨group, -, rfl⟩ := List.mem_map.mp (List.mem_filter.mp hlines).1
    obtain ⟨module, imported, hget, -, hrendered⟩ := mem_groupLines.mp h
    exact ⟨module, imported, hget, hrendered⟩

/-- **No set of symbols is empty, and removing is exact.** Among imports that the operations lead
to, no module has an empty set of symbols, and each line that is written down, unless it is empty,
imports a whole module or shows at least one symbol. Removing symbols of a module takes away the
pairs of the module and one of them and nothing else, and leaves everything as it is if the module
is whole or not there; removing symbols of all modules does so for each of them. -/
theorem removal_spec (h : imports.Reachable) :
    (∀ module names, imports.get? module = some (.symbols names) → ∃ symbol, symbol ∈ names) ∧
    (∀ aliases, imports.render aliases = Text.unlines (imports.resolve aliases).lines ∧
      ∀ line ∈ (imports.resolve aliases).lines, line ≠ "" → ∃ module,
        (imports.resolve aliases).Whole module ∧ line = "import '" ++ module ++ "';" ∨
        ∃ names, (imports.resolve aliases).get? module = some (.symbols names) ∧
          names.toList ≠ [] ∧
          line = "import '" ++ module ++ "' show " ++ ", ".intercalate names.toList ++ ";") ∧
    (∀ module symbols,
      LacksOnly (fun key symbol => module = key ∧ symbol ∈ symbols)
        (imports.remove module symbols) imports ∧
      ((∀ names, imports.get? module ≠ some (.symbols names)) →
        imports.remove module symbols = imports)) ∧
    ∀ symbols, LacksOnly (fun _ symbol => symbol ∈ symbols) (imports.removeSymbols symbols)
      imports := by
  refine ⟨h.proper, fun aliases => ⟨rfl, fun line hline hne => ?_⟩,
    fun module symbols => ⟨lacksOnly_remove, remove_eq_self⟩,
    fun symbols => lacksOnly_removeSymbols⟩
  obtain ⟨module, imported, hget, rfl⟩ := entry_of_mem_lines hline hne
  refine ⟨module, ?_⟩
  cases imported with
  | everything => exact .inl ⟨hget, rfl⟩
  | symbols names =>
    obtain ⟨symbol, hsymbol⟩ := (h.resolve aliases).proper module names hget
    exact .inr ⟨names, hget, List.ne_nil_of_mem (Std.ExtTreeSet.mem_toList.mpr hsymbol), rfl⟩

/-- The imports of a file that uses two generated types and all of a package. -/
def vaultImports : ImportMap :=
  ((empty.add "types/vault.dart" ["Vault", "BVault"]).add "types/limits.dart" ["Vault"]).addModule
    "package:solana/solana.dart"

/-- Taking one class away from all modules leaves the other one and the whole package, and nothing
of the module that showed only that class. -/
theorem removal_spec_vault : vaultImports.Reachable ∧
    (vaultImports.removeSymbols ["Vault"]).ShownFrom "types/vault.dart" "BVault" ∧
    (∀ symbol, ¬ (vaultImports.removeSymbols ["Vault"]).ShownFrom "types/limits.dart" symbol) ∧
    (vaultImports.removeSymbols ["Vault"]).Whole "package:solana/solana.dart" ∧
    vaultImports.remove "package:solana/solana.dart" ["Vault"] = vaultImports := by
  have hreachable : vaultImports.Reachable := ((Reachable.empty.add _ _).add _ _).addModule _
  obtain ⟨-, -, hremove, hremoveSymbols⟩ := removal_spec hreachable
  have hlacks := hremoveSymbols ["Vault"]
  have hwhole : vaultImports.Whole "package:solana/solana.dart" := by simp [vaultImports]
  refine ⟨hreachable, (hlacks.shown _ _).mpr ⟨?_, by decide⟩, fun symbol h => ?_,
    (hlacks.whole _).mpr hwhole, (hremove _ _).2 fun names hnames => ?_⟩
  · simp [shownFrom_iff, vaultImports]
  · obtain ⟨hshown, hne⟩ := (hlacks.shown _ _).mp h
    simp [shownFrom_iff, vaultImports] at hshown
    exact hne (List.mem_singleton.mpr hshown)
  · rw [Whole, hnames] at hwhole
    cases hwhole

end DartClient.ImportMap
