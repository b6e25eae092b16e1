import DartClient.Proofs.Wire.Measure

/-!
# Loops over the input

A list, set or map that goes on to the end of the input is read in passes, as long as input is left.
If every pass takes a byte, there are at most as many passes as bytes. A pass that takes none leaves
the input as it is, so the next one does the same, and the passes never end; this is what is reported
as `endless`.

A reader idles if it succeeds without taking a byte. Whether it does can depend on whether input is
left, since a reader of all that is left idles at the end of the input and nowhere else; it depends
on nothing else about the input.

## Main definitions

* `Step.Passes`, `Step.GoesOn`: the passes of a loop, and a loop that never ends.
* `Step.Advances`: every pass takes a byte.
* `Step.IdlesIf`: where a reader idles.
* `Step.Ends`: a reader that is not endless on any input.

## Main results

* `Step.untilEmpty_endless_iff`: what is reported as endless goes on for ever.
* `Step.Passes.add_length_le`: how many passes there can be.
* `IdlesIf.bind`, `IdlesIf.repeated`, `IdlesIf.untilEmpty`: where composed readers idle.
* `IdlesIf.advances_iff`: a loop advances exactly if its reader does not idle while input is left.
* `Ends.untilEmpty`: a loop ends if each of its passes ends and takes a byte.
-/

namespace DartClient

open Step

/-! ## Loops -/

namespace Step

variable {α β : Type} {read : Step α} {input rest : List UInt8}

/-- So many passes of a loop, each of which reads an item where input is left, lead from one input to
another. -/
inductive Passes (read : Step α) : Nat → List UInt8 → List UInt8 → Prop
  | none (input : List UInt8) : Passes read 0 input input
  | more {n : Nat} {input mid rest : List UInt8} {item : α} (hleft : input ≠ [])
      (hread : read input = (.ok item, mid)) (h : Passes read n mid rest) :
      Passes read (n + 1) input rest

/-- However many passes there have been, there is another one. -/
def GoesOn (read : Step α) (input : List UInt8) : Prop := ∀ n, ∃ rest, Passes read n input rest

/-- Every pass takes at least one byte. -/
def Advances (read : Step α) : Prop :=
  ∀ input item rest, input ≠ [] → read input = (.ok item, rest) → rest.length < input.length

/-- **There are at most as many passes as bytes**, if every pass takes a byte. -/
theorem Passes.add_length_le (hadvances : Advances read) {n : Nat} (h : Passes read n input rest) :
    n + rest.length ≤ input.length := by
  induction h with
  | none input => exact Nat.le_of_eq (Nat.zero_add _)
  | more hleft hread _ ih =>
    have hlt := hadvances _ _ _ hleft hread
    omega

/-- A loop that advances does not go on for ever. -/
theorem Advances.not_goesOn (hadvances : Advances read) : ¬ GoesOn read input := by
  intro hgoes
  obtain ⟨rest, hpasses⟩ := hgoes (input.length + 1)
  have hle := hpasses.add_length_le hadvances
  omega

/-- A pass that leaves the input as it is can be repeated for ever. -/
theorem passes_of_idle {item : α} (hleft : input ≠ []) (hread : read input = (.ok item, input)) :
    ∀ n, Passes read n input input
  | 0 => .none input
  | n + 1 => .more hleft hread (passes_of_idle hleft hread n)

theorem GoesOn.exists_pass (h : GoesOn read input) :
    ∃ item mid, input ≠ [] ∧ read input = (.ok item, mid) ∧ GoesOn read mid := by
  obtain ⟨_, hone⟩ := h 1
  cases hone with
  | @more _ _ mid _ item hleft hread _ =>
    refine ⟨item, mid, hleft, hread, fun n => ?_⟩
    obtain ⟨rest, hmore⟩ := h (n + 1)
    -- The first of the passes is the one that is known.
    cases hmore with
    | more _ hread' hrest =>
      obtain ⟨-, rfl⟩ := Prod.mk.inj (hread.symm.trans hread')
      exact ⟨rest, hrest⟩

/-- A pass leads from where it begins to where the next ones begin. -/
theorem goesOn_iff_of_pass {item : α} {mid : List UInt8} (hleft : input ≠ [])
    (hread : read input = (.ok item, mid)) : GoesOn read input ↔ GoesOn read mid := by
  constructor
  · intro hgoes
    obtain ⟨_, _, -, hpass, hmid⟩ := hgoes.exists_pass
    obtain ⟨-, rfl⟩ := Prod.mk.inj (hread.symm.trans hpass)
    exact hmid
  · intro hgoes n
    cases n with
    | zero => exact ⟨input, .none input⟩
    | succ n =>
      obtain ⟨rest, hpasses⟩ := hgoes n
      exact ⟨rest, .more hleft hread hpasses⟩

/-- Some passes lead to input of which a single pass is endless. -/
def FailsEndless (read : Step α) (input : List UInt8) : Prop :=
  ∃ n rest, Passes read n input rest ∧ rest ≠ [] ∧ (read rest).1 = .error .endless

theorem failsEndless_iff_of_pass {item : α} {mid : List UInt8} (hleft : input ≠ [])
    (hread : read input = (.ok item, mid)) : FailsEndless read input ↔ FailsEndless read mid := by
  constructor
  · rintro ⟨n, rest, hpasses, hne, hendless⟩
    cases hpasses with
    | none =>
      rw [hread] at hendless
      cases hendless
    | more _ hpass hpasses =>
      obtain ⟨-, rfl⟩ := Prod.mk.inj (hread.symm.trans hpass)
      exact ⟨_, rest, hpasses, hne, hendless⟩
  · rintro ⟨n, rest, hpasses, hne, hendless⟩
    exact ⟨n + 1, rest, .more hleft hread hpasses, hne, hendless⟩

theorem failsEndless_iff_of_error {error : WireError} (hleft : input ≠ [])
    (hread : read input = (.error error, rest)) :
    FailsEndless read input ↔ error = .endless := by
  constructor
  · rintro ⟨n, left, hpasses, -, hendless⟩
    cases hpasses with
    | none =>
      rw [hread] at hendless
      exact Except.error.inj hendless
    | more _ hpass => cases hread.symm.trans hpass
  · rintro rfl
    exact ⟨0, input, .none input, hleft, by rw [hread]⟩

/-- Behind a pass that takes bytes the loop is as endless as at its beginning. -/
theorem untilEmpty_endless_iff_of_pass {item : α} {mid : List UInt8} (hleft : input ≠ [])
    (hread : read input = (.ok item, mid)) (hlt : mid.length < input.length) :
    (untilEmpty read input).1 = .error .endless ↔ (untilEmpty read mid).1 = .error .endless := by
  rw [untilEmpty, if_neg (by simpa using hleft), hread]
  simp only [hlt, if_true]
  cases untilEmpty read mid with
  | mk result left => cases result <;> simp

/-- **What is reported as endless goes on for ever**, or a single pass of it does. -/
theorem untilEmpty_endless_iff (hfront : ReadsSize (· ≥ ·) read 0) :
    (untilEmpty read input).1 = .error .endless ↔ GoesOn read input ∨ FailsEndless read input := by
  induction hsize : input.length using Nat.strongRecOn generalizing input with
  | ind size ih =>
  subst hsize
  by_cases hleft : input = []
  · subst hleft
    rw [untilEmpty_nil]
    refine iff_of_false (fun h => by cases h) ?_
    rintro (hgoes | ⟨n, rest, hpasses, hrest, -⟩)
    · obtain ⟨_, _, hne, -⟩ := hgoes.exists_pass
      exact hne rfl
    · cases hpasses with
      | none => exact hrest rfl
      | more hne => exact hne rfl
  cases hread : read input with
  | mk result mid =>
  cases result with
  | error error =>
    have hgoes : ¬ GoesOn read input := by
      intro hgoes
      obtain ⟨_, _, -, hpass, -⟩ := hgoes.exists_pass
      cases hread.symm.trans hpass
    rw [failsEndless_iff_of_error hleft hread, or_iff_right hgoes, untilEmpty,
      if_neg (by simpa using hleft), hread]
    simp
  | ok item =>
    obtain ⟨taken, htaken, -⟩ := hfront input item mid hread
    by_cases hlt : mid.length < input.length
    · -- The first pass takes bytes, so it is the rest that decides.
      rw [untilEmpty_endless_iff_of_pass hleft hread hlt, goesOn_iff_of_pass hleft hread,
        failsEndless_iff_of_pass hleft hread]
      exact ih mid.length hlt rfl
    · -- Nothing has been taken, so every pass is this one.
      have hnone : taken = [] := by
        rw [htaken, List.length_append] at hlt
        exact List.length_eq_zero_iff.mp (by omega)
      rw [hnone, List.nil_append] at htaken
      subst htaken
      have hgoes : GoesOn read input := fun n => ⟨input, passes_of_idle hleft hread n⟩
      rw [untilEmpty, if_neg (by simpa using hleft), hread]
      simp [hgoes]

/-! ## Where a reader idles -/

theorem sizeOrder_ge : SizeOrder (· ≥ ·) where
  refl := Nat.le_refl
  add := Nat.add_le_add

/-- A reader that takes at least so many bytes takes at least as many as any smaller number. -/
theorem ReadsSize.mono_ge {m n : Nat} (hle : m ≤ n) (h : ReadsSize (· ≥ ·) read n) :
    ReadsSize (· ≥ ·) read m := by
  intro input a rest hread
  obtain ⟨taken, hinput, htaken⟩ := h input a rest hread
  exact ⟨taken, hinput, Nat.le_trans hle htaken⟩

/-- The reader succeeds without taking a byte exactly where `idle` tells, from whether the input is
used up. -/
structure IdlesIf (idle : Bool → Bool) (read : Step α) : Prop where
  /-- What takes no byte idles. -/
  takes : ∀ input a rest, read input = (.ok a, rest) →
    ∃ taken, input = taken ++ rest ∧ (taken = [] → idle input.isEmpty = true)
  /-- What idles succeeds and leaves the input as it is. -/
  stays : ∀ input, idle input.isEmpty = true → ∃ a, read input = (.ok a, input)

namespace IdlesIf

variable {idle idle' : Bool → Bool}

theorem readsSize (h : IdlesIf idle read) : ReadsSize (· ≥ ·) read 0 := by
  intro input a rest hread
  obtain ⟨taken, hinput, -⟩ := h.takes input a rest hread
  exact ⟨taken, hinput, Nat.zero_le _⟩

/-- A reader that takes at least one byte never idles. -/
theorem never (h : ReadsSize (· ≥ ·) read 1) : IdlesIf (fun _ => false) read where
  takes input a rest hread := by
    obtain ⟨taken, hinput, htaken⟩ := h input a rest hread
    refine ⟨taken, hinput, ?_⟩
    rintro rfl
    exact absurd htaken (by decide)
  stays input hidle := by cases hidle

theorem done (a : α) : IdlesIf (fun _ => true) (Step.done a) where
  takes input b rest hread := by
    obtain ⟨-, rfl⟩ := Prod.mk.inj hread
    exact ⟨[], rfl, fun _ => rfl⟩
  stays input _ := ⟨a, rfl⟩

theorem bind {next : α → Step β} (h : IdlesIf idle read) (hnext : ∀ a, IdlesIf idle' (next a)) :
    IdlesIf (fun atEnd => idle atEnd && idle' atEnd) (read >>= next) where
  takes input b rest hread := by
    obtain ⟨a, mid, hfront, hback⟩ := bind_eq_ok_iff.mp hread
    obtain ⟨front, rfl, hidle⟩ := h.takes input a mid hfront
    obtain ⟨back, rfl, hidle'⟩ := (hnext a).takes mid b rest hback
    refine ⟨front ++ back, by rw [List.append_assoc], fun hnone => ?_⟩
    -- Neither of the two has taken a byte, so both of them saw the same input.
    obtain ⟨rfl, rfl⟩ := List.append_eq_nil_iff.mp hnone
    rw [Bool.and_eq_true]
    exact ⟨hidle rfl, hidle' rfl⟩
  stays input hidle := by
    rw [Bool.and_eq_true] at hidle
    obtain ⟨a, hfront⟩ := h.stays input hidle.1
    obtain ⟨b, hback⟩ := (hnext a).stays input hidle.2
    exact ⟨b, bind_eq_ok_iff.mpr ⟨a, input, hfront, hback⟩⟩

/-- A value computed from what is read takes no further bytes. -/
theorem map {f : α → β} (h : IdlesIf idle read) : IdlesIf idle (do return f (← read)) := by
  have hbind := h.bind fun a => IdlesIf.done (f a)
  simp only [Bool.and_true] at hbind
  exact hbind

theorem take (n : Nat) (place : String) : IdlesIf (fun _ => n == 0) (Step.take n place) where
  takes input a rest hread := by
    obtain ⟨taken, hinput, htaken⟩ := readsSize_take sizeOrder_eq n place input a rest hread
    refine ⟨taken, hinput, ?_⟩
    rintro rfl
    exact beq_iff_eq.mpr htaken.symm
  stays input hidle := by
    obtain rfl := beq_iff_eq.mp hidle
    exact ⟨[], rfl⟩

theorem takeAll : IdlesIf (fun atEnd => atEnd) Step.takeAll where
  takes input a rest hread := by
    obtain ⟨-, rfl⟩ := Prod.mk.inj hread
    exact ⟨input, (List.append_nil input).symm, List.isEmpty_iff.mpr⟩
  stays input hidle := by
    obtain rfl := List.isEmpty_iff.mp hidle
    exact ⟨[], rfl⟩

/-- Several items idle if there are none or each of them idles. -/
theorem repeated (h : IdlesIf idle read) :
    ∀ n, IdlesIf (fun atEnd => n == 0 || idle atEnd) (Step.repeated read n)
  | 0 => done []
  | n + 1 => by
    have hcons : IdlesIf (fun atEnd => idle atEnd && (n == 0 || idle atEnd))
        (Step.repeated read (n + 1)) := h.bind fun _ => (repeated h n).map
    have hsame : (fun atEnd => idle atEnd && (n == 0 || idle atEnd)) =
        fun atEnd => n + 1 == 0 || idle atEnd := by
      funext atEnd
      cases idle atEnd <;> simp
    rwa [hsame] at hcons

end IdlesIf

theorem readsSize_untilEmpty (h : ReadsSize (· ≥ ·) read 0) :
    ReadsSize (· ≥ ·) (untilEmpty read) 0 := by
  intro input
  induction hsize : input.length using Nat.strongRecOn generalizing input with
  | ind size ih =>
    intro items rest hread
    by_cases hleft : input = []
    · rw [hleft, untilEmpty_nil] at hread
      obtain ⟨-, rfl⟩ := Prod.mk.inj hread
      exact ⟨[], by rw [hleft]; rfl, Nat.zero_le _⟩
    · obtain ⟨item, mid, tail, hitem, hlt, htail, rfl⟩ := (untilEmpty_eq_ok_iff hleft).mp hread
      obtain ⟨front, rfl, -⟩ := h input item mid hitem
      obtain ⟨back, rfl, -⟩ := ih mid.length (hsize ▸ hlt) mid rfl tail rest htail
      exact ⟨front ++ back, by rw [List.append_assoc], Nat.zero_le _⟩

/-- Items up to the end of the input idle if there is none left. -/
theorem IdlesIf.untilEmpty {idle : Bool → Bool} (h : IdlesIf idle read) :
    IdlesIf (fun atEnd => atEnd) (Step.untilEmpty read) where
  takes input items rest hread := by
    obtain ⟨taken, hinput, -⟩ := readsSize_untilEmpty h.readsSize input items rest hread
    refine ⟨taken, hinput, ?_⟩
    rintro rfl
    rw [List.nil_append] at hinput
    subst hinput
    by_contra hleft
    -- The first item takes bytes, and none of them can be left.
    obtain ⟨item, mid, tail, -, hlt, htail, -⟩ :=
      (untilEmpty_eq_ok_iff (by simpa using hleft)).mp hread
    obtain ⟨back, hmid, -⟩ := readsSize_untilEmpty h.readsSize mid tail input htail
    have hlength := congrArg List.length hmid
    rw [List.length_append] at hlength
    omega
  stays input hidle := by
    obtain rfl := List.isEmpty_iff.mp hidle
    exact ⟨[], untilEmpty_nil read⟩

/-- **A loop advances exactly if its reader does not idle** while input is left. -/
theorem IdlesIf.advances_iff {idle : Bool → Bool} (h : IdlesIf idle read) :
    Advances read ↔ idle false = false := by
  constructor
  · intro hadvances
    by_contra hidle
    obtain ⟨item, hread⟩ := h.stays [0] (by simpa using hidle)
    exact absurd (hadvances [0] item [0] (List.cons_ne_nil _ _) hread) (Nat.lt_irrefl _)
  · intro hidle input item rest hleft hread
    obtain ⟨taken, rfl, htaken⟩ := h.takes input item rest hread
    have hsome : taken ≠ [] := by
      intro hnone
      have hidles := htaken hnone
      rw [show (taken ++ rest).isEmpty = false by simpa using hleft, hidle] at hidles
      cases hidles
    have hpos := List.length_pos_iff.mpr hsome
    rw [List.length_append]
    omega

/-! ## Readers that end -/

/-- A sequence fails as its first step does. -/
theorem bind_fst_eq_error {next : α → Step β} {error : WireError}
    (h : (read input).1 = .error error) : ((read >>= next) input).1 = .error error := by
  rw [bind_apply]
  cases hread : read input with
  | mk result rest =>
    rw [hread] at h
    obtain rfl : result = .error error := h
    rfl

/-- The reader is not endless on any input. -/
def Ends (read : Step α) : Prop := ∀ input, (read input).1 ≠ .error .endless

namespace Ends

theorem done (a : α) : Ends (Step.done a) := fun _ h => by cases h

theorem fail {error : WireError} (herror : error ≠ .endless) : Ends (Step.fail error : Step α) :=
  fun _ h => herror (Except.error.inj h)

theorem bind {next : α → Step β} (h : Ends read) (hnext : ∀ a, Ends (next a)) :
    Ends (read >>= next) := by
  intro input
  rw [bind_apply]
  cases hread : read input with
  | mk result rest =>
    cases result with
    | error error =>
      intro hendless
      refine h input ?_
      rw [hread]
      exact congrArg Except.error (Except.error.inj hendless)
    | ok a => exact hnext a rest

theorem map {f : α → β} (h : Ends read) : Ends (do return f (← read)) :=
  h.bind fun a => done (f a)

theorem ofOption (value : Option α) {error : WireError} (herror : error ≠ .endless) :
    Ends (Step.ofOption value error) := by
  cases value with
  | none => exact fail herror
  | some a => exact done a

theorem take (n : Nat) (place : String) : Ends (Step.take n place) := by
  intro input
  unfold Step.take
  split <;> exact fun h => by cases h

theorem within (h : Ends read) (part : List UInt8) : Ends (Step.within part read) := fun _ => h part

theorem repeated (h : Ends read) : ∀ n, Ends (Step.repeated read n)
  | 0 => done []
  | n + 1 => h.bind fun _ => (repeated h n).map

/-- A loop ends if each of its passes ends and takes a byte. -/
theorem untilEmpty (h : Ends read) (hfront : ReadsSize (· ≥ ·) read 0) (hadvances : Advances read) :
    Ends (Step.untilEmpty read) := by
  intro input hendless
  rcases (untilEmpty_endless_iff hfront).mp hendless with hgoes | ⟨_, rest, -, -, hpass⟩
  · exact hadvances.not_goesOn hgoes
  · exact h rest hpass

end Ends

end Step

end DartClient
