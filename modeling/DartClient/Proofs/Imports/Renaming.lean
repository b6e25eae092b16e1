import DartClient.Proofs.Imports.Join

/-!
# Renaming modules respects merging

Renaming goes through the modules in order, and what several modules of one new name import ends up
merged: a whole module absorbs the symbols of the others, in whichever order they come. The modules
of one new name may be any number, but what is asked of the result is only whether some module of
that name was imported as a whole, or brought a symbol. These questions are the same before and
after imports are merged, and for two renamings in a row and both of them in one, so renaming is a
homomorphism of merging. Replacing aliases is the renaming of each alias to the module that it
stands for, whatever the aliases are.

## Main definitions

* `unaliased`: the module that a name stands for.
* `ImportMap.Renames`: an operation gives modules new names and respects merging.

## Main results

* `ImportMap.mapModules_merge`, `ImportMap.mapModules_mapModules`: the laws of renaming.
* `ImportMap.renames_mapModules_and_resolve`: renaming modules and replacing aliases obey them.
-/

namespace DartClient

/-- The module that a name stands for: the one given for an alias, and any other name itself. -/
def unaliased (aliases : Aliases) (module : String) : String := aliases[module]?.getD module

namespace ImportMap

/-- An operation on imports gives modules new names: under a name stands what all modules that get
this name bring, and nothing is lost or added. It does not matter whether imports are merged before
or after, and renaming once more is renaming by both names in a row. -/
structure Renames (rename : String → String) (operation : ImportMap → ImportMap) : Prop where
  merge : ∀ imports other,
    operation (imports.merge other) = (operation imports).merge (operation other)
  mapModules : ∀ imports further,
    (operation imports).mapModules further = imports.mapModules (further ∘ rename)
  resolve : ∀ imports aliases,
    (operation imports).resolve aliases = imports.mapModules (unaliased aliases ∘ rename)
  whole : ∀ imports module, (operation imports).Whole module ↔
    ∃ key, rename key = module ∧ imports.Whole key
  contains : ∀ imports module symbol, (operation imports).contains module symbol = true ↔
    ∃ key, rename key = module ∧ imports.contains key symbol = true

variable {imports other : ImportMap}

/-- What two files import of the modules of one new name is the same, merged before or after. -/
theorem mapModules_merge (rename : String → String) :
    (imports.merge other).mapModules rename =
      (imports.mapModules rename).merge (other.mapModules rename) := by
  have hmerge : ((imports.mapModules rename).merge (other.mapModules rename)).Proper :=
    Proper.merge (proper_mapModules rename)
  refine eq_of_contains_iff (proper_mapModules rename) hmerge (fun module => ?_)
    fun module symbol => ?_
  · simp only [whole_mapModules, whole_merge, and_or_left, exists_or]
  · simp only [contains_mapModules, contains_merge, and_or_left, exists_or]

/-- A module that leads to a name in two steps leads there by both of them. -/
theorem exists_renamed_iff {rename further : String → String} {module : String}
    {P : String → Prop} :
    (∃ middle, further middle = module ∧ ∃ key, rename key = middle ∧ P key) ↔
      ∃ key, (further ∘ rename) key = module ∧ P key := by
  constructor
  · rintro ⟨_, hmodule, key, rfl, hkey⟩
    exact ⟨key, hmodule, hkey⟩
  · rintro ⟨key, hmodule, hkey⟩
    exact ⟨rename key, hmodule, key, rfl, hkey⟩

theorem mapModules_mapModules (rename further : String → String) :
    (imports.mapModules rename).mapModules further = imports.mapModules (further ∘ rename) := by
  refine eq_of_contains_iff (proper_mapModules further) (proper_mapModules _) (fun module => ?_)
    fun module symbol => ?_
  · simp only [whole_mapModules, exists_renamed_iff]
  · simp only [contains_mapModules, exists_renamed_iff]

theorem renames_mapModules (rename : String → String) : Renames rename (mapModules rename) where
  merge _ _ := mapModules_merge rename
  mapModules _ further := mapModules_mapModules rename further
  resolve _ aliases := mapModules_mapModules rename (unaliased aliases)
  whole _ _ := whole_mapModules rename
  contains _ _ _ := contains_mapModules rename

/-- **Renaming modules respects merging**, and so does replacing aliases. This holds for all names
and all aliases, also where many modules, some of them imported as a whole, get one name. -/
theorem renames_mapModules_and_resolve (rename : String → String) (aliases : Aliases) :
    Renames rename (fun imports => imports.mapModules rename) ∧
      Renames (unaliased aliases) fun imports => imports.resolve aliases :=
  ⟨renames_mapModules rename, renames_mapModules (unaliased aliases)⟩

end ImportMap

end DartClient
