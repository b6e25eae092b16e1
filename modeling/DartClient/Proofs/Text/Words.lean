import DartClient.Text.Casing

/-!
# The characters of a spelled name

Spelling a name puts together letters and digits, changed to another case, and underscores. Where
changing the case of a letter or digit leads to a code point below 128 at all, that is a letter of
the Latin alphabet or a digit. So no other character below 128, such as a slash, a backslash or a
dot, is ever part of a spelled name, whatever the name was; only the character NUL is left out of
this, which stands for code points that do not exist.

## Main results

* `Text.isAlphanumeric_of_mem_words`: words hold letters and digits only.
* `Text.not_mem_snake`, `Text.not_mem_shoutySnake`: what is never part of a name with underscores.
* `Text.not_mem_upperCamel`, `Text.not_mem_lowerCamel`: what is never part of a name in capitalized
  words.
-/

namespace DartClient.Text

variable {c : Char} {name : String} {word run : List Char}

/-! ## Words -/

/-- Cutting a run into words adds no character. -/
theorem mem_of_mem_splitRun {piece : List Char} : ∀ {rest : List Char} {mode : CaseMode}
    {word : List Char}, piece ∈ splitRun mode word rest → c ∈ piece → c ∈ word ∨ c ∈ rest
  | [], mode, word, hpiece, hc => by
    unfold splitRun at hpiece
    split at hpiece
    · cases hpiece
    · obtain rfl := List.mem_singleton.mp hpiece
      exact .inl (List.mem_reverse.mp hc)
  | [last], mode, word, hpiece, hc => by
    obtain rfl := List.mem_singleton.mp hpiece
    rcases List.mem_cons.mp (List.mem_reverse.mp hc) with rfl | hc
    · exact .inr List.mem_cons_self
    · exact .inl hc
  | first :: next :: rest, mode, word, hpiece, hc => by
    rw [splitRun] at hpiece
    -- Either a word ends behind the first character, or in front of it, or it goes on.
    split at hpiece
    · rcases List.mem_cons.mp hpiece with rfl | hpiece
      · rcases List.mem_cons.mp (List.mem_reverse.mp hc) with rfl | hc
        · exact .inr List.mem_cons_self
        · exact .inl hc
      · rcases mem_of_mem_splitRun hpiece hc with hc | hc
        · cases hc
        · exact .inr (List.mem_cons_of_mem _ hc)
    · split at hpiece
      · rcases List.mem_cons.mp hpiece with rfl | hpiece
        · exact .inl (List.mem_reverse.mp hc)
        · rcases mem_of_mem_splitRun hpiece hc with hc | hc
          · obtain rfl := List.mem_singleton.mp hc
            exact .inr List.mem_cons_self
          · exact .inr (List.mem_cons_of_mem _ hc)
      · rcases mem_of_mem_splitRun hpiece hc with hc | hc
        · rcases List.mem_cons.mp hc with rfl | hc
          · exact .inr List.mem_cons_self
          · exact .inl hc
        · exact .inr (List.mem_cons_of_mem _ hc)

/-- Cutting a name into runs leaves letters and digits. -/
theorem isAlphanumeric_of_mem_runs {piece : List Char} {rest : List Char} :
    ∀ {run : List Char}, (∀ c ∈ run, isAlphanumeric c = true) →
      piece ∈ alphanumericRunsOf run rest → c ∈ piece → isAlphanumeric c = true := by
  induction rest with
  | nil =>
    intro run hrun hpiece hc
    obtain rfl := List.mem_singleton.mp hpiece
    exact hrun c (List.mem_reverse.mp hc)
  | cons first rest ih =>
    intro run hrun hpiece hc
    unfold alphanumericRunsOf at hpiece
    split at hpiece
    case isTrue hfirst => exact ih (List.forall_mem_cons.mpr ⟨hfirst, hrun⟩) hpiece hc
    case isFalse =>
      rcases List.mem_cons.mp hpiece with rfl | hpiece
      · exact hrun c (List.mem_reverse.mp hc)
      · exact ih (fun _ h => by cases h) hpiece hc

/-- **Words hold letters and digits only.** -/
theorem isAlphanumeric_of_mem_words (hword : word ∈ words name) (hc : c ∈ word) :
    isAlphanumeric c = true := by
  obtain ⟨run, hrun, hword⟩ := List.mem_flatMap.mp hword
  rcases mem_of_mem_splitRun hword hc with hc | hc
  · cases hc
  · exact isAlphanumeric_of_mem_runs (fun _ h => by cases h) hrun hc

/-! ## Upper and lower case -/

theorem exists_of_map? {code image : Nat} {entries : List CaseRun}
    (h : CaseRun.map? entries code = some image) : ∃ entry ∈ entries,
      entry.run.first ≤ code ∧ code ≤ entry.run.last ∧ image = (code + entry.offset).toNat := by
  induction entries with
  | nil => cases h
  | cons entry entries ih =>
    unfold CaseRun.map? at h
    split at h
    · cases h
    · split at h
      case isTrue hlow hcontains =>
        simp only [CodeRun.contains, Bool.and_eq_true, decide_eq_true_eq] at hcontains
        exact ⟨entry, List.mem_cons_self, hcontains.1.1, hcontains.1.2, (Option.some.inj h).symm⟩
      case isFalse =>
        obtain ⟨entry, hentry, h⟩ := ih h
        exact ⟨entry, List.mem_cons_of_mem _ hentry, h⟩

/-- A code point is a letter of the Latin alphabet, or stands behind all of ASCII. -/
def IsLatinOrBeyond (code : Nat) : Prop :=
  (0x41 ≤ code ∧ code ≤ 0x5A) ∨ (0x61 ≤ code ∧ code ≤ 0x7A) ∨ 0x80 ≤ code

/-- All code points that the runs move to are letters of one case, or behind all of ASCII. -/
def LeadToLetters (entries : List CaseRun) : Prop := ∀ entry ∈ entries,
  0x41 ≤ entry.run.first + entry.offset ∧ entry.run.last + entry.offset ≤ 0x5A ∨
    0x61 ≤ entry.run.first + entry.offset ∧ entry.run.last + entry.offset ≤ 0x7A ∨
      0x80 ≤ entry.run.first + entry.offset

/-- All code points that are expanded to are letters, or behind all of ASCII. -/
def ExpandToLetters (expansions : List (Nat × List Nat)) : Prop :=
  ∀ entry ∈ expansions, ∀ code ∈ entry.2, IsLatinOrBeyond code

theorem leadToLetters_toLower : LeadToLetters toLowerRuns := by
  unfold LeadToLetters
  decide +kernel

theorem leadToLetters_toUpper : LeadToLetters toUpperRuns := by
  unfold LeadToLetters
  decide +kernel

theorem expandToLetters_toLower : ExpandToLetters toLowerExpansions := by
  unfold ExpandToLetters IsLatinOrBeyond
  decide

theorem expandToLetters_toUpper : ExpandToLetters toUpperExpansions := by
  unfold ExpandToLetters IsLatinOrBeyond
  decide +kernel

theorem anyContains_of_latin : ∀ code < 0x80,
    (0x41 ≤ code ∧ code ≤ 0x5A) ∨ (0x61 ≤ code ∧ code ≤ 0x7A) →
      CodeRun.anyContains alphanumericRuns code = true := by
  decide +kernel

theorem toNat_ofNat_of_isValidChar {code : Nat} (hvalid : code.isValidChar) :
    (Char.ofNat code).toNat = code := by
  rw [Char.ofNat, dif_pos hvalid]
  rfl

section Separators

variable (hascii : c.toNat < 0x80) (hseparates : isAlphanumeric c = false) (hzero : c ≠ '\x00')
include hascii hseparates hzero

theorem ne_ofNat {code : Nat} (hcode : IsLatinOrBeyond code) : c ≠ Char.ofNat code := by
  rintro rfl
  by_cases hvalid : code.isValidChar
  · rw [isAlphanumeric, toNat_ofNat_of_isValidChar hvalid] at hseparates
    rw [toNat_ofNat_of_isValidChar hvalid] at hascii
    have hlatin : (0x41 ≤ code ∧ code ≤ 0x5A) ∨ (0x61 ≤ code ∧ code ≤ 0x7A) := by
      unfold IsLatinOrBeyond at hcode
      omega
    rw [anyContains_of_latin code hascii hlatin] at hseparates
    cases hseparates
  · rw [Char.ofNat, dif_neg hvalid] at hzero
    exact hzero rfl

/-- A letter or digit in another case has no other character of ASCII. -/
theorem not_mem_changeCase {expansions : List (Nat × List Nat)} {runs : List CaseRun}
    (hexpansions : ExpandToLetters expansions) (hruns : LeadToLetters runs) {letter : Char}
    (hletter : isAlphanumeric letter = true) : c ∉ changeCase expansions runs letter := by
  -- A letter is expanded, or moved within a run of letters, or left as it is.
  unfold changeCase
  split
  case h_1 codes hcodes =>
    intro hmem
    obtain ⟨code, hcode, hmem⟩ := List.mem_map.mp hmem
    obtain ⟨front, back, hentries, -⟩ := List.lookup_eq_some_iff.mp hcodes
    have hentry : (letter.toNat, codes) ∈ expansions := by
      rw [hentries]
      exact List.mem_append_right _ List.mem_cons_self
    exact ne_ofNat hascii hseparates hzero (hexpansions _ hentry code hcode) hmem.symm
  case h_2 =>
    intro hmem
    have hmem := List.mem_singleton.mp hmem
    cases hmap : CaseRun.map? runs letter.toNat with
    | none =>
      rw [hmap] at hmem
      obtain rfl : c = letter := hmem
      rw [hletter] at hseparates
      cases hseparates
    | some image =>
      rw [hmap] at hmem
      obtain ⟨entry, hentry, hfirst, hlast, himage⟩ := exists_of_map? hmap
      have hcode : IsLatinOrBeyond image := by
        have hrun := hruns entry hentry
        unfold IsLatinOrBeyond
        omega
      exact ne_ofNat hascii hseparates hzero hcode hmem

/-- The lower case of a letter or digit has no other character of ASCII. -/
theorem not_mem_toLower {letter : Char} (hletter : isAlphanumeric letter = true) :
    c ∉ toLower letter :=
  not_mem_changeCase hascii hseparates hzero expandToLetters_toLower leadToLetters_toLower hletter

/-- The upper case of a letter or digit has no other character of ASCII. -/
theorem not_mem_toUpper {letter : Char} (hletter : isAlphanumeric letter = true) :
    c ∉ toUpper letter :=
  not_mem_changeCase hascii hseparates hzero expandToLetters_toUpper leadToLetters_toUpper hletter

theorem not_mem_lowercase {word : List Char} :
    (∀ letter ∈ word, isAlphanumeric letter = true) → c ∉ lowercase word := by
  induction word using lowercase.induct with
  | case1 =>
    intro _ hmem
    cases hmem
  | case2 =>
    intro _ hmem
    obtain rfl := List.mem_singleton.mp hmem
    exact absurd hascii (by decide)
  | case3 letter rest hsigma ih =>
    intro hword hmem
    obtain ⟨hletter, hrest⟩ := List.forall_mem_cons.mp hword
    rw [lowercase] at hmem
    rcases List.mem_append.mp hmem with hmem | hmem
    · exact not_mem_toLower hascii hseparates hzero hletter hmem
    · exact ih hrest hmem
    · exact hsigma

theorem not_mem_capitalize {word : List Char}
    (hword : ∀ letter ∈ word, isAlphanumeric letter = true) : c ∉ capitalize word := by
  cases word with
  | nil => exact List.not_mem_nil
  | cons letter rest =>
    obtain ⟨hletter, hrest⟩ := List.forall_mem_cons.mp hword
    rw [capitalize, List.mem_append]
    rintro (hmem | hmem)
    · exact not_mem_toUpper hascii hseparates hzero hletter hmem
    · exact not_mem_lowercase hascii hseparates hzero hrest hmem

theorem not_mem_uppercase {word : List Char}
    (hword : ∀ letter ∈ word, isAlphanumeric letter = true) : c ∉ uppercase word := by
  intro hmem
  obtain ⟨letter, hletter, hmem⟩ := List.mem_flatMap.mp hmem
  exact not_mem_toUpper hascii hseparates hzero (hword letter hletter) hmem

end Separators

theorem mem_of_mem_intercalate {α : Type} {separator : List α} {lists : List (List α)} {a : α}
    (h : a ∈ separator.intercalate lists) : a ∈ separator ∨ ∃ list ∈ lists, a ∈ list := by
  induction lists with
  | nil => cases h
  | cons first rest ih =>
    cases rest with
    | nil =>
      rw [List.intercalate_singleton] at h
      exact .inr ⟨first, List.mem_cons_self, h⟩
    | cons second rest =>
      rw [List.intercalate_cons_cons, List.append_assoc] at h
      rcases List.mem_append.mp h with h | h
      · exact .inr ⟨first, List.mem_cons_self, h⟩
      · rcases List.mem_append.mp h with h | h
        · exact .inl h
        · rcases ih h with h | ⟨list, hlist, h⟩
          · exact .inl h
          · exact .inr ⟨list, List.mem_cons_of_mem _ hlist, h⟩

theorem mem_intercalate_of_mem {α : Type} {separator : List α} {lists : List (List α)}
    {list : List α} {a : α} (hlist : list ∈ lists) (h : a ∈ list) :
    a ∈ separator.intercalate lists := by
  induction lists with
  | nil => cases hlist
  | cons first rest ih =>
    cases rest with
    | nil =>
      rw [List.mem_singleton.mp hlist] at h
      rwa [List.intercalate_singleton]
    | cons second rest =>
      rw [List.intercalate_cons_cons, List.append_assoc]
      rcases List.mem_cons.mp hlist with rfl | hlist
      · exact List.mem_append_left _ h
      · exact List.mem_append_right _ (List.mem_append_right _ (ih hlist))

/-- What no spelled word holds, the words with underscores between them do not hold either. -/
theorem not_mem_intercalate_words {spell : List Char → List Char}
    (hspell : ∀ word ∈ words name, c ∉ spell word) (hunderscore : c ≠ '_') :
    c ∉ ['_'].intercalate ((words name).map spell) := by
  intro hmem
  rcases mem_of_mem_intercalate hmem with hmem | ⟨spelled, hspelled, hmem⟩
  · exact hunderscore (List.mem_singleton.mp hmem)
  · obtain ⟨word, hword, rfl⟩ := List.mem_map.mp hspelled
    exact hspell word hword hmem

/-- **A name in lower case with underscores has no other character of ASCII** than these, letters
and digits. -/
theorem not_mem_snake (hascii : c.toNat < 0x80) (hseparates : isAlphanumeric c = false)
    (hzero : c ≠ '\x00') (hunderscore : c ≠ '_') : c ∉ (snake name).toList := by
  rw [snake, String.toList_ofList]
  exact not_mem_intercalate_words (fun word hword => not_mem_lowercase hascii hseparates hzero
    fun _ h => isAlphanumeric_of_mem_words hword h) hunderscore

/-- **A name in upper case with underscores has no other character of ASCII** than these, letters
and digits. -/
theorem not_mem_shoutySnake (hascii : c.toNat < 0x80) (hseparates : isAlphanumeric c = false)
    (hzero : c ≠ '\x00') (hunderscore : c ≠ '_') : c ∉ (shoutySnake name).toList := by
  rw [shoutySnake, String.toList_ofList]
  exact not_mem_intercalate_words (fun word hword => not_mem_uppercase hascii hseparates hzero
    fun _ h => isAlphanumeric_of_mem_words hword h) hunderscore

/-- **A name in capitalized words has no other character of ASCII** than letters and digits. -/
theorem not_mem_upperCamel (hascii : c.toNat < 0x80) (hseparates : isAlphanumeric c = false)
    (hzero : c ≠ '\x00') : c ∉ (upperCamel name).toList := by
  rw [upperCamel, String.toList_ofList]
  intro hmem
  obtain ⟨word, hword, hmem⟩ := List.mem_flatMap.mp hmem
  exact not_mem_capitalize hascii hseparates hzero
    (fun _ h => isAlphanumeric_of_mem_words hword h) hmem

/-- **A name that begins with a word in lower case has no other character of ASCII** than letters
and digits. -/
theorem not_mem_lowerCamel (hascii : c.toNat < 0x80) (hseparates : isAlphanumeric c = false)
    (hzero : c ≠ '\x00') : c ∉ (lowerCamel name).toList := by
  rw [lowerCamel]
  cases hwords : words name with
  | nil => exact List.not_mem_nil
  | cons word rest =>
    have hletters {other : List Char} (hother : other ∈ word :: rest) :
        ∀ letter ∈ other, isAlphanumeric letter = true := fun _ h =>
      isAlphanumeric_of_mem_words (hwords ▸ hother) h
    rw [String.toList_ofList, List.mem_append]
    rintro (hmem | hmem)
    · exact not_mem_lowercase hascii hseparates hzero (hletters List.mem_cons_self) hmem
    · obtain ⟨other, hother, hmem⟩ := List.mem_flatMap.mp hmem
      exact not_mem_capitalize hascii hseparates hzero
        (hletters (List.mem_cons_of_mem _ hother)) hmem

end DartClient.Text
