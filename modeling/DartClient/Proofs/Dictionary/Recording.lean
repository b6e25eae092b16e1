import Mathlib.Data.List.Nodup
import Mathlib.Order.Defs.PartialOrder
import DartClient.Dictionary

/-!
# Recording programs

A dictionary holds the first program of each name. So a program whose name is there changes nothing,
programs of different names can be recorded in any order, and a dictionary only grows. Dictionaries
are ordered by what they hold: whatever a link finds in one of them it finds in every larger one.

## Main definitions

* the order of dictionaries: every entry of the smaller one is an entry of the larger one.

## Main results

* `Dictionary.program?_ofPrograms`: a name leads to the first program that carries it.
* `Dictionary.ofPrograms_le_append`: a dictionary only grows.
* `Dictionary.record_comm`: programs of different names can be recorded in either order.
-/

namespace DartClient

open Idl (Program DefinedType Pda)

namespace Dictionary

variable {dictionary dictionary' : Dictionary} {programs : List Program}

/-! ## What a name leads to -/

theorem program?_record (dictionary : Dictionary) (program : Program) (name : String) :
    (dictionary.record program).program? name = (dictionary.program? name).or
      (if program.name = name then some (.ofProgram program) else none) := by
  have hmem : program.name ∈ dictionary.programs ↔ (dictionary.program? program.name).isSome :=
    Std.ExtTreeMap.isSome_getElem?_iff_mem.symm
  rw [program?, record, Std.ExtTreeMap.getElem?_insertIfNew, ← program?]
  simp only [Std.LawfulEqCmp.compare_eq_iff_eq, hmem]
  by_cases hname : program.name = name
  · subst hname
    cases hfound : dictionary.program? program.name <;> simp
  · simp [hname]

theorem program?_foldl_record (programs : List Program) (dictionary : Dictionary) (name : String) :
    (programs.foldl record dictionary).program? name = (dictionary.program? name).or
      ((programs.find? (·.name == name)).map .ofProgram) := by
  -- The head of the list is recorded first, so it stands between the dictionary and the rest.
  induction programs generalizing dictionary with
  | nil => simp
  | cons program programs ih =>
    rw [List.foldl_cons, ih, program?_record, Option.or_assoc]
    by_cases hname : program.name = name
    · rw [List.find?_cons_of_pos (by simpa using hname), if_pos hname, Option.some_or,
        Option.map_some]
    · rw [List.find?_cons_of_neg (by simpa using hname), if_neg hname, Option.none_or]

/-- **A name leads to the first program that carries it.** -/
theorem program?_ofPrograms (programs : List Program) (name : String) :
    (ofPrograms programs).program? name =
      (programs.find? (·.name == name)).map .ofProgram := by
  rw [ofPrograms, program?_foldl_record]
  simp [program?, empty]

theorem isSome_program?_ofPrograms_iff {name : String} :
    ((ofPrograms programs).program? name).isSome ↔ name ∈ programs.map (·.name) := by
  simp [program?_ofPrograms]

/-! ## Larger dictionaries -/

theorem ext_program? (h : ∀ name, dictionary.program? name = dictionary'.program? name) :
    dictionary = dictionary' := by
  obtain ⟨programs⟩ := dictionary
  obtain ⟨programs'⟩ := dictionary'
  congr 1
  exact Std.ExtTreeMap.ext_getElem? h

/-- Dictionaries are ordered by what they hold. -/
instance : PartialOrder Dictionary where
  le dictionary dictionary' :=
    ∀ name entry, dictionary.program? name = some entry → dictionary'.program? name = some entry
  le_refl _ _ _ hentry := hentry
  le_trans _ _ _ h h' name entry hentry := h' name entry (h name entry hentry)
  le_antisymm _ _ h h' := ext_program? fun name =>
    Option.ext fun entry => ⟨h name entry, h' name entry⟩

theorem le_foldl_record (dictionary : Dictionary) (programs : List Program) :
    dictionary ≤ programs.foldl record dictionary := by
  intro name entry hentry
  rw [program?_foldl_record, hentry, Option.some_or]

theorem ofPrograms_append (programs later : List Program) :
    ofPrograms (programs ++ later) = later.foldl record (ofPrograms programs) := by
  rw [ofPrograms, List.foldl_append, ← ofPrograms]

/-- **A dictionary only grows.** -/
theorem ofPrograms_le_append (programs later : List Program) :
    ofPrograms programs ≤ ofPrograms (programs ++ later) := by
  rw [ofPrograms_append]
  exact le_foldl_record _ _

theorem definedType?_of_le (h : dictionary ≤ dictionary') {program name : String}
    {linkedProgram : Option String} {defined : DefinedType}
    (hdefined : dictionary.definedType? program name linkedProgram = some defined) :
    dictionary'.definedType? program name linkedProgram = some defined := by
  obtain ⟨entry, hentry, htype⟩ := Option.bind_eq_some_iff.mp hdefined
  exact Option.bind_eq_some_iff.mpr ⟨entry, h _ entry hentry, htype⟩

theorem pda?_of_le (h : dictionary ≤ dictionary') {program name : String} {pda : Pda}
    (hpda : dictionary.pda? program name = some pda) :
    dictionary'.pda? program name = some pda := by
  obtain ⟨entry, hentry, hfound⟩ := Option.bind_eq_some_iff.mp hpda
  exact Option.bind_eq_some_iff.mpr ⟨entry, h _ entry hentry, hfound⟩

/-! ## When recording changes nothing, and when its order does not matter -/

/-- A program of a name that is there changes nothing. -/
theorem record_eq_self {program : Program} (h : (dictionary.program? program.name).isSome) :
    dictionary.record program = dictionary := by
  refine ext_program? fun name => ?_
  rw [program?_record]
  split
  case isTrue hname => rw [← hname, Option.or_of_isSome h]
  case isFalse => exact Option.or_none

/-- **Programs of different names** can be recorded in either order. -/
theorem record_comm {first second : Program} (h : first.name ≠ second.name) :
    (dictionary.record first).record second = (dictionary.record second).record first := by
  refine ext_program? fun name => ?_
  simp only [program?_record, Option.or_assoc]
  congr 1
  by_cases hname : first.name = name
  · have hsecond : second.name ≠ name := fun hsecond => h (hname.trans hsecond.symm)
    rw [if_neg hsecond, Option.or_none, Option.none_or]
  · rw [if_neg hname, Option.none_or, Option.or_none]

theorem foldl_record_perm {later later' : List Program} (hperm : later.Perm later')
    (hnodup : (later.map (·.name)).Nodup) (dictionary : Dictionary) :
    later.foldl record dictionary = later'.foldl record dictionary := by
  -- Names occur once, so two programs that change places differ in name or are the same.
  refine hperm.foldl_eq' (fun first hfirst second hsecond dictionary => ?_) dictionary
  by_cases hname : first.name = second.name
  · rw [List.inj_on_of_nodup_map hnodup hfirst hsecond hname]
  · exact record_comm hname

end Dictionary

end DartClient
