import DartClient.Imports

/-!
# What imports bring

What imports amount to is told by two questions: is a module imported as a whole, and is a symbol
of a module imported, where a whole module counts as all of its symbols. Adding and merging give
the disjunction of the answers, removing takes away what is named and leaves whole modules alone,
and renaming collects the answers of all modules that get one name.

Adding and renaming leave no empty set of symbols behind, so a module that is listed is imported as
a whole or brings a symbol.

## Main definitions

* `Imported.Brings`: a symbol is among what is imported of a module.
* `ImportMap.Whole`: a module is imported as a whole.
* `ImportMap.ShownFrom`: a symbol is imported of a module that is not imported as a whole.
* `ImportMap.Proper`: no set of symbols is empty.
* `ImportMap.Within`: nothing is imported but what is allowed.

## Main results

* `ImportMap.contains_add`, `ImportMap.contains_merge`, `ImportMap.contains_mapModules`: the
  symbols after adding, merging and renaming.
* `ImportMap.contains_removeModule`, `ImportMap.contains_removeSymbols`: the symbols after removing.
* `ImportMap.Within.add`, `ImportMap.Within.merge`: imports keep to what is allowed.
-/

namespace DartClient

/-! ## One module -/

namespace Imported

variable {imported : Option Imported} {symbols : List String} {symbol : String}

/-- A symbol is among what is imported of a module. -/
def Brings (imported : Option Imported) (symbol : String) : Prop :=
  match imported with
  | none => False
  | some .everything => True
  | some (.symbols names) => symbol ∈ names

/-- What is imported of a module is no empty set of symbols. -/
def Proper (imported : Option Imported) : Prop :=
  ∀ names, imported = some (.symbols names) → ∃ symbol, symbol ∈ names

theorem mem_foldl_erase (symbol : String) (symbols : List String) (names : Std.ExtTreeSet String) :
    symbol ∈ symbols.foldl (fun names symbol => names.erase symbol) names ↔
      symbol ∈ names ∧ symbol ∉ symbols := by
  induction symbols generalizing names with
  | nil => simp
  | cons first symbols ih =>
    simp only [List.foldl_cons, ih, Std.ExtTreeSet.mem_erase, ne_eq,
      Std.LawfulEqCmp.compare_eq_iff_eq, List.mem_cons, not_or]
    constructor
    · rintro ⟨⟨hfirst, hnames⟩, hsymbols⟩
      exact ⟨hnames, fun h => hfirst h.symm, hsymbols⟩
    · rintro ⟨hnames, hfirst, hsymbols⟩
      exact ⟨⟨fun h => hfirst h.symm, hnames⟩, hsymbols⟩

theorem brings_add : Brings (add symbols imported) symbol ↔
    Brings imported symbol ∨ symbol ∈ symbols := by
  rcases imported with _ | _ | names
  · simp only [add]
    split
    case isTrue hempty => simp [Brings, List.isEmpty_iff.mp hempty]
    case isFalse => simp [Brings, Std.ExtTreeSet.mem_ofList]
  · simp [add, Brings]
  · simp [add, Brings, Std.ExtTreeSet.mem_insertMany_list]

theorem add_eq_everything_iff :
    add symbols imported = some .everything ↔ imported = some .everything := by
  rcases imported with _ | _ | names
  · simp only [add]
    split <;> simp
  · simp [add]
  · simp [add]

theorem proper_add (h : Proper imported) : Proper (add symbols imported) := by
  intro names hnames
  rcases imported with _ | _ | names'
  · simp only [add] at hnames
    split at hnames
    case isTrue => cases hnames
    case isFalse hempty =>
      obtain rfl := Imported.symbols.inj (Option.some.inj hnames)
      obtain ⟨symbol, hsymbol⟩ :=
        List.exists_mem_of_ne_nil symbols fun h => hempty (List.isEmpty_iff.mpr h)
      exact ⟨symbol, by simpa [Std.ExtTreeSet.mem_ofList] using hsymbol⟩
  · cases hnames
  · obtain ⟨symbol, hsymbol⟩ := h names' rfl
    obtain rfl := Imported.symbols.inj (Option.some.inj hnames)
    exact ⟨symbol, Std.ExtTreeSet.mem_insertMany_list.mpr (.inl hsymbol)⟩

theorem brings_remove : Brings (remove symbols imported) symbol ↔
    Brings imported symbol ∧ (imported = some .everything ∨ symbol ∉ symbols) := by
  rcases imported with _ | _ | names
  · simp [remove, Brings]
  · simp [remove, Brings]
  · have hmem := mem_foldl_erase symbol symbols names
    simp only [remove]
    split
    case isTrue hempty =>
      rw [Std.ExtTreeSet.isEmpty_iff.mp hempty] at hmem
      simpa [Brings] using hmem
    case isFalse => simp [Brings, hmem]

theorem remove_eq_everything_iff :
    remove symbols imported = some .everything ↔ imported = some .everything := by
  rcases imported with _ | _ | names
  · simp [remove]
  · simp [remove]
  · simp only [remove]
    split <;> simp

end Imported

namespace ImportMap

variable {imports other : ImportMap} {module key symbol : String} {symbols : List String}

/-- A module is imported as a whole. -/
def Whole (imports : ImportMap) (module : String) : Prop := imports.get? module = some .everything

/-- No set of symbols is empty. -/
def Proper (imports : ImportMap) : Prop := ∀ module, Imported.Proper (imports.get? module)

theorem contains_iff :
    imports.contains module symbol = true ↔ Imported.Brings (imports.get? module) symbol := by
  unfold contains Imported.Brings
  rcases imports.get? module with _ | _ | names <;> simp

/-- A symbol is imported if something that brings it is imported of its module. -/
theorem contains_iff_exists : imports.contains module symbol = true ↔
    ∃ imported, imports.get? module = some imported ∧ Imported.Brings (some imported) symbol := by
  rw [contains_iff]
  cases imports.get? module <;> simp [Imported.Brings]

/-- A symbol is among those that are imported of a module, which is not imported as a whole. -/
def ShownFrom (imports : ImportMap) (module symbol : String) : Prop :=
  ∃ names, imports.get? module = some (.symbols names) ∧ symbol ∈ names

theorem shownFrom_iff : imports.ShownFrom module symbol ↔
    imports.contains module symbol = true ∧ ¬ imports.Whole module := by
  rw [contains_iff, ShownFrom, Whole]
  rcases imports.get? module with _ | _ | names <;> simp [Imported.Brings]

theorem containsModule_iff : imports.containsModule module = true ↔ imports.get? module ≠ none := by
  rw [containsModule, Std.ExtTreeMap.contains_eq_isSome_getElem?, Option.isSome_iff_ne_none]
  rfl

/-- Proper imports name a module only for a symbol that they bring. -/
theorem Proper.containsModule_iff_exists (h : imports.Proper) :
    imports.containsModule module = true ↔ ∃ symbol, imports.contains module symbol = true := by
  simp only [containsModule_iff, contains_iff]
  rcases hget : imports.get? module with _ | _ | names
  · simp [Imported.Brings]
  · simp [Imported.Brings]
  · simpa [Imported.Brings] using h module names hget

/-! ## Nothing -/

@[simp] theorem get?_empty : empty.get? module = none := Std.ExtTreeMap.getElem?_empty

@[simp] theorem not_whole_empty : ¬ empty.Whole module := by simp [Whole]

@[simp] theorem contains_empty : empty.contains module symbol = false := by simp [contains]

theorem proper_empty : empty.Proper := by
  intro module names h
  rw [get?_empty] at h
  cases h

/-! ## Adding -/

theorem get?_add : (imports.add key symbols).get? module =
    if key = module then Imported.add symbols (imports.get? key) else imports.get? module := by
  simp [get?, add, Std.ExtTreeMap.getElem?_alter]

@[simp] theorem whole_add : (imports.add key symbols).Whole module ↔ imports.Whole module := by
  unfold Whole
  rw [get?_add]
  split
  case isTrue hkey => rw [Imported.add_eq_everything_iff, hkey]
  case isFalse => rfl

@[simp] theorem contains_add : (imports.add key symbols).contains module symbol = true ↔
    imports.contains module symbol = true ∨ (key = module ∧ symbol ∈ symbols) := by
  rw [contains_iff, contains_iff, get?_add]
  split
  case isTrue hkey => simp [Imported.brings_add, hkey]
  case isFalse hkey => simp [hkey]

theorem Proper.add (h : imports.Proper) : (imports.add key symbols).Proper := by
  intro module
  rw [get?_add]
  split
  · exact Imported.proper_add (h key)
  · exact h module

theorem get?_addModule : (imports.addModule key).get? module =
    if key = module then some .everything else imports.get? module := by
  simp [get?, addModule, Std.ExtTreeMap.getElem?_insert]

@[simp] theorem whole_addModule :
    (imports.addModule key).Whole module ↔ imports.Whole module ∨ key = module := by
  unfold Whole
  rw [get?_addModule]
  split
  case isTrue hkey => simp [hkey]
  case isFalse hkey => simp [hkey]

@[simp] theorem contains_addModule : (imports.addModule key).contains module symbol = true ↔
    imports.contains module symbol = true ∨ key = module := by
  rw [contains_iff, contains_iff, get?_addModule]
  split
  case isTrue hkey => simp [hkey, Imported.Brings]
  case isFalse hkey => simp [hkey]

theorem Proper.addModule (h : imports.Proper) : (imports.addModule key).Proper := by
  intro module
  rw [get?_addModule]
  split
  · intro names hnames
    cases hnames
  · exact h module

theorem whole_addImported {imported : Imported} : (imports.addImported key imported).Whole module ↔
    imports.Whole module ∨ (key = module ∧ imported = .everything) := by
  cases imported <;> simp [addImported]

theorem contains_addImported {imported : Imported} :
    (imports.addImported key imported).contains module symbol = true ↔
      imports.contains module symbol = true ∨
        (key = module ∧ Imported.Brings (some imported) symbol) := by
  cases imported <;> simp [addImported, Imported.Brings, Std.ExtTreeSet.mem_toList]

theorem Proper.addImported (h : imports.Proper) {imported : Imported} :
    (imports.addImported key imported).Proper := by
  cases imported with
  | everything => exact h.addModule
  | symbols names => exact h.add

/-! ## Merging and renaming -/

section Collecting

variable (rename : String → String) {entries : List (String × Imported)}

/-- Both merging and renaming add the entries of one file after the other, under new names. -/
theorem whole_foldl_addImported : (entries.foldl (fun imports (key, imported) =>
      imports.addImported (rename key) imported) imports).Whole module ↔
    imports.Whole module ∨ ∃ key, rename key = module ∧ (key, .everything) ∈ entries := by
  induction entries generalizing imports with
  | nil => simp
  | cons entry entries ih =>
    obtain ⟨key, imported⟩ := entry
    rw [List.foldl_cons, ih, whole_addImported]
    simp only [List.mem_cons, Prod.mk.injEq]
    grind

theorem contains_foldl_addImported : (entries.foldl (fun imports (key, imported) =>
      imports.addImported (rename key) imported) imports).contains module symbol = true ↔
    imports.contains module symbol = true ∨ ∃ key imported, rename key = module ∧
      (key, imported) ∈ entries ∧ Imported.Brings (some imported) symbol := by
  induction entries generalizing imports with
  | nil => simp
  | cons entry entries ih =>
    obtain ⟨key, imported⟩ := entry
    rw [List.foldl_cons, ih, contains_addImported]
    simp only [List.mem_cons, Prod.mk.injEq]
    grind

theorem Proper.foldl_addImported (h : imports.Proper) : (entries.foldl (fun imports
    (key, imported) => imports.addImported (rename key) imported) imports).Proper := by
  induction entries generalizing imports with
  | nil => exact h
  | cons entry entries ih => exact ih h.addImported

theorem mem_toList {imported : Imported} :
    (key, imported) ∈ imports.toList ↔ imports.get? key = some imported :=
  Std.ExtTreeMap.mem_toList_iff_getElem?_eq_some

@[simp] theorem whole_merge :
    (imports.merge other).Whole module ↔ imports.Whole module ∨ other.Whole module := by
  refine (whole_foldl_addImported fun key => key).trans ?_
  simp [mem_toList, Whole]

@[simp] theorem contains_merge : (imports.merge other).contains module symbol = true ↔
    imports.contains module symbol = true ∨ other.contains module symbol = true := by
  refine (contains_foldl_addImported fun key => key).trans (or_congr_right ?_)
  simp only [mem_toList, @contains_iff_exists other, exists_and_left, exists_eq_left]

theorem whole_mapModules : (imports.mapModules rename).Whole module ↔
    ∃ key, rename key = module ∧ imports.Whole key := by
  rw [mapModules, whole_foldl_addImported]
  simp [mem_toList, Whole]

theorem contains_mapModules : (imports.mapModules rename).contains module symbol = true ↔
    ∃ key, rename key = module ∧ imports.contains key symbol = true := by
  rw [mapModules, contains_foldl_addImported]
  simp only [mem_toList, contains_empty, Bool.false_eq_true, false_or, exists_and_left,
    @contains_iff_exists imports]

theorem proper_mapModules : (imports.mapModules rename).Proper :=
  proper_empty.foldl_addImported rename

end Collecting

/-! ## Removing -/

theorem get?_removeModule : (imports.removeModule key).get? module =
    if key = module then none else imports.get? module := by
  simp [get?, removeModule, Std.ExtTreeMap.getElem?_erase]

@[simp] theorem whole_removeModule :
    (imports.removeModule key).Whole module ↔ imports.Whole module ∧ key ≠ module := by
  unfold Whole
  rw [get?_removeModule]
  split
  case isTrue hkey => simp [hkey]
  case isFalse hkey => simp [hkey]

@[simp] theorem contains_removeModule : (imports.removeModule key).contains module symbol = true ↔
    imports.contains module symbol = true ∧ key ≠ module := by
  rw [contains_iff, contains_iff, get?_removeModule]
  split
  case isTrue hkey => simp [hkey, Imported.Brings]
  case isFalse hkey => simp [hkey]

theorem get?_remove : (imports.remove key symbols).get? module =
    if key = module then Imported.remove symbols (imports.get? key) else imports.get? module := by
  simp [get?, remove, Std.ExtTreeMap.getElem?_alter]

@[simp] theorem whole_remove :
    (imports.remove key symbols).Whole module ↔ imports.Whole module := by
  unfold Whole
  rw [get?_remove]
  split
  case isTrue hkey => rw [Imported.remove_eq_everything_iff, hkey]
  case isFalse => rfl

@[simp] theorem contains_remove : (imports.remove key symbols).contains module symbol = true ↔
    imports.contains module symbol = true ∧
      (imports.Whole module ∨ ¬ (key = module ∧ symbol ∈ symbols)) := by
  rw [contains_iff, contains_iff, get?_remove]
  split
  case isTrue hkey => simp [Imported.brings_remove, Whole, hkey]
  case isFalse hkey => simp [hkey]

section RemoveSymbols

variable {entries : List (String × Imported)}

theorem whole_foldl_remove : (entries.foldl (fun imports (key, _) => imports.remove key symbols)
    imports).Whole module ↔ imports.Whole module := by
  induction entries generalizing imports with
  | nil => rfl
  | cons entry entries ih => rw [List.foldl_cons, ih, whole_remove]

theorem contains_foldl_remove : (entries.foldl (fun imports (key, _) =>
      imports.remove key symbols) imports).contains module symbol = true ↔
    imports.contains module symbol = true ∧ (imports.Whole module ∨
      ¬ (module ∈ entries.map Prod.fst ∧ symbol ∈ symbols)) := by
  induction entries generalizing imports with
  | nil => simp
  | cons entry entries ih =>
    rw [List.foldl_cons, ih, contains_remove, whole_remove, List.map_cons, List.mem_cons]
    grind

@[simp] theorem whole_removeSymbols :
    (imports.removeSymbols symbols).Whole module ↔ imports.Whole module := whole_foldl_remove

/-- Removing symbols of all modules takes them away from all modules that are not whole. -/
@[simp] theorem contains_removeSymbols :
    (imports.removeSymbols symbols).contains module symbol = true ↔
      imports.contains module symbol = true ∧ (imports.Whole module ∨ symbol ∉ symbols) := by
  rw [removeSymbols, contains_foldl_remove]
  -- Only modules that are listed are gone through, and these are all that bring a symbol.
  refine and_congr_right fun hcontains => or_congr_right ?_
  obtain ⟨imported, hget, -⟩ := contains_iff_exists.mp hcontains
  have hmodule : module ∈ imports.toList.map Prod.fst :=
    List.mem_map_of_mem (f := Prod.fst) (mem_toList.mpr hget)
  simp [hmodule]

end RemoveSymbols

/-! ## Keeping to what is allowed -/

/-- Only allowed modules are imported as a whole, and of the others only allowed symbols. -/
structure Within (modules : String → Prop) (symbols : String → String → Prop)
    (imports : ImportMap) : Prop where
  whole : ∀ {module}, imports.Whole module → modules module
  shown : ∀ {module symbol}, imports.contains module symbol = true →
    imports.Whole module ∨ symbols module symbol

namespace Within

variable {modules modules' : String → Prop} {allowed allowed' : String → String → Prop}

theorem empty : ImportMap.empty.Within modules allowed where
  whole h := absurd h not_whole_empty
  shown h := by simp at h

theorem mono (h : imports.Within modules allowed)
    (hmodules : ∀ {module}, modules module → modules' module)
    (hallowed : ∀ {module symbol}, allowed module symbol → allowed' module symbol) :
    imports.Within modules' allowed' where
  whole hwhole := hmodules (h.whole hwhole)
  shown hcontains := (h.shown hcontains).imp_right hallowed

theorem add (h : imports.Within modules allowed)
    (hsymbols : ∀ symbol ∈ symbols, allowed key symbol) :
    (imports.add key symbols).Within modules allowed where
  whole hwhole := h.whole (whole_add.mp hwhole)
  shown hcontains := by
    rcases contains_add.mp hcontains with hcontains | ⟨rfl, hsymbol⟩
    · exact (h.shown hcontains).imp_left whole_add.mpr
    · exact .inr (hsymbols _ hsymbol)

theorem addModule (h : imports.Within modules allowed) (hkey : modules key) :
    (imports.addModule key).Within modules allowed where
  whole hwhole := by
    rcases whole_addModule.mp hwhole with hwhole | rfl
    · exact h.whole hwhole
    · exact hkey
  shown hcontains := by
    rcases contains_addModule.mp hcontains with hcontains | rfl
    · exact (h.shown hcontains).imp_left fun hwhole => whole_addModule.mpr (.inl hwhole)
    · exact .inl (whole_addModule.mpr (.inr rfl))

theorem merge (h : imports.Within modules allowed) (hother : other.Within modules allowed) :
    (imports.merge other).Within modules allowed where
  whole hwhole := by
    rcases whole_merge.mp hwhole with hwhole | hwhole
    · exact h.whole hwhole
    · exact hother.whole hwhole
  shown hcontains := by
    rcases contains_merge.mp hcontains with hcontains | hcontains
    · exact (h.shown hcontains).imp_left fun hwhole => whole_merge.mpr (.inl hwhole)
    · exact (hother.shown hcontains).imp_left fun hwhole => whole_merge.mpr (.inr hwhole)

/-- Imports keep to what is allowed while every step does. -/
theorem foldl {α : Type} {step : ImportMap → α → ImportMap} {items : List α}
    (hstep : ∀ item ∈ items, ∀ imports : ImportMap, imports.Within modules allowed →
      (step imports item).Within modules allowed) :
    ∀ {imports : ImportMap}, imports.Within modules allowed →
      (items.foldl step imports).Within modules allowed := by
  induction items with
  | nil => exact fun h => h
  | cons item items ih =>
    intro imports h
    obtain ⟨hitem, hitems⟩ := List.forall_mem_cons.mp hstep
    exact ih hitems (hitem imports h)

theorem merged {maps : List ImportMap} (h : ∀ imports ∈ maps, imports.Within modules allowed) :
    (ImportMap.merged maps).Within modules allowed :=
  foldl (fun imports himports _ hresult => hresult.merge (h imports himports)) empty

end Within

end ImportMap

end DartClient
