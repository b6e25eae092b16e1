import DartClient.Proofs.Client.Locals
import DartClient.Proofs.Manifest.MemberNames

/-!
# The names in a builder

The function that makes an instruction has three kinds of names in one scope: the parameters for the
accounts, which are called by names of the description; the locals behind those parameters, whose
names are made of the parameters; and a few names of its own. Nothing keeps them apart but that the
accounts have distinct names. So a name of the description may be one of the function's own, or look
like the name of a local, and the locals of two accounts may have one name, since a parameter is cut
into words again when its local is named.

What can be told for all names is that nothing else happens: the locals behind parameters begin in a
way in which, apart from the local of the program, no name of the function's own does.

## Main definitions

* `Builder.identifiers`: the names of all parameters and locals.
* `Builder.ownNames`: those that do not come from accounts.
* `Builder.filled`: the accounts that have a local.

## Main results

* `Builder.exists_line_of_parameter`, `Builder.exists_line_of_mem_localNames`: where the names stand
  in the function.
* `Builder.identifiers_perm`: where the names come from.
* `Builder.nodup_identifiers_iff`: when they are distinct.
-/

namespace DartClient

open Idl (Instruction InstructionAccount)
open Text (lowerCamel upperCamel)

/-! ## Names that members may have -/

/-- A word that is neither reserved nor has the mark of reserved words belongs to the names that have
it for their form in lower camel case. -/
theorem memberName_eq_iff_of_free {name word : String} (hfree : word ∉ reservedWords)
    (hplain : '_' ∉ word.toList) : memberName name = word ↔ lowerCamel name = word := by
  have hword : avoidReserved word = word := by
    rcases avoidReserved_cases word with ⟨-, hword⟩ | ⟨hreserved, -⟩
    · exact hword
    · exact absurd hreserved hfree
  rw [← avoidReserved_inj (underscore_not_mem_lowerCamel name) hplain, hword, memberName]

/-! ## The names of a builder -/

namespace Builder

variable {builder : Builder}

/-- The names of the parameters and of the locals, which are all in one scope. -/
def identifiers (builder : Builder) : List String :=
  builder.parameters.map (·.name) ++ builder.localNames

/-- The names that a builder has whatever its accounts are. -/
def ownNames (builder : Builder) : List String :=
  (if builder.hasArguments then [argumentsParameter] else []) ++
    [programVariable, resolvedProgram, accountsVariable, dataVariable]

/-- The accounts that may be left out. -/
def filled (builder : Builder) : List BuilderAccount :=
  builder.accounts.filter (·.default.isSome)

/-! ## Where the names stand -/

/-- The last two statements in front of the result declare the accounts and the data. -/
theorem exists_lastLine {name : String} (h : name ∈ [accountsVariable, dataVariable]) :
    ∃ line ∈ builder.accountsLines ++ [builder.dataLine], DeclaresLocal line name := by
  rcases List.mem_pair.mp h with rfl | rfl
  · unfold accountsLines
    split
    · exact ⟨_, List.mem_cons_self, "<AccountMeta>[];", rfl⟩
    · exact ⟨_, List.mem_cons_self, "[", rfl⟩
  · have hcall : " = ByteArray(" = " = " ++ "ByteArray(" := rfl
    obtain ⟨bytes, hbytes⟩ : ∃ bytes, builder.dataLine =
        "  final " ++ dataVariable ++ " = ByteArray(" ++ bytes ++ ");" := ⟨_, rfl⟩
    refine ⟨_, List.mem_append_right _ (List.mem_singleton_self _),
      "ByteArray(" ++ bytes ++ ");", ?_⟩
    simp only [hbytes, hcall, String.append_assoc]

/-- Every parameter is declared on a line of the builder. -/
theorem exists_line_of_parameter {parameter : BuilderParameter}
    (h : parameter ∈ builder.parameters) :
    ∃ line ∈ builder.lines, DeclaresParameter line parameter.name := by
  obtain ⟨line, hline, hdeclares⟩ := exists_line_of_mem_parameters h
  refine ⟨line, ?_, hdeclares⟩
  unfold lines
  simp only [List.mem_append, hline, true_or, or_true]

/-- Every local is declared by a statement. -/
theorem exists_line_of_mem_localNames {name : String} (h : name ∈ builder.localNames) :
    ∃ line ∈ builder.lines, DeclaresLocal line name := by
  rw [localNames, List.mem_append, List.mem_map] at h
  obtain ⟨entry, hentry, rfl⟩ | h := h
  · obtain ⟨line, hline, hbegins⟩ := builder.exists_line_of_local entry
    exact ⟨line, mem_lines_of_mem_localLines hentry hline, hbegins⟩
  · obtain ⟨line, hline, hbegins⟩ := builder.exists_lastLine h
    refine ⟨line, ?_, hbegins⟩
    unfold lines
    rcases List.mem_append.mp hline with hline | hline
    · simp only [List.mem_append, hline, true_or, or_true]
    · rw [List.mem_singleton.mp hline]
      simp

/-! ## Where the names come from -/

/-- An account that may be left out has one local, whether it stands with the plain ones or with the
derived addresses. -/
theorem localNames_perm (accounts : List BuilderAccount) :
    ((accounts.filterMap BuilderAccount.plainLocal? ++
      accounts.filterMap BuilderAccount.derivedLocal?).map (·.name)).Perm
        ((accounts.filter (·.default.isSome)).map fun account =>
          resolvedName account.parameter) := by
  induction accounts with
  | nil => exact .nil
  | cons account accounts ih =>
    obtain ⟨account, default⟩ := account
    rw [List.map_append] at ih ⊢
    cases default with
    | none => exact ih
    | absent | address | programId => exact ih.cons _
    | derived => exact List.perm_middle.trans (ih.cons _)

/-- **The names of a builder** are the parameters of its accounts, its own names and the locals of
its accounts. -/
theorem identifiers_perm (builder : Builder) : builder.identifiers.Perm
    (builder.accounts.map BuilderAccount.parameter ++ (builder.ownNames ++
      builder.filled.map fun account => resolvedName account.parameter)) := by
  have hparameters : builder.parameters.map (·.name) =
      builder.accounts.map BuilderAccount.parameter ++
        ((if builder.hasArguments then [argumentsParameter] else []) ++ [programVariable]) := by
    rw [parameters, List.map_append, List.map_append, List.map_map, List.append_assoc]
    congr 2
    unfold argumentParameters
    split <;> rfl
  have hlocals : builder.localNames.Perm
      ([resolvedProgram, accountsVariable, dataVariable] ++
        builder.filled.map fun account => resolvedName account.parameter) := by
    rw [localNames, locals, List.map_cons]
    have hbehind := (localNames_perm builder.accounts).append_left [accountsVariable, dataVariable]
    exact (List.perm_append_comm.trans hbehind).cons resolvedProgram
  rw [identifiers, hparameters]
  have hall := hlocals.append_left (builder.accounts.map BuilderAccount.parameter ++
    ((if builder.hasArguments then [argumentsParameter] else []) ++ [programVariable]))
  simpa only [ownNames, List.append_assoc, List.cons_append, List.nil_append] using hall

/-! ## Names that are never the same -/

theorem nodup_ownNames (builder : Builder) : builder.ownNames.Nodup := by
  unfold ownNames
  split <;> decide

/-- A name of its own is no reserved word, nor is it marked like one. -/
theorem free_of_mem_ownNames {word : String} (h : word ∈ builder.ownNames) :
    word ∉ reservedWords ∧ '_' ∉ word.toList := by
  revert word
  unfold ownNames
  split <;> decide

theorem resolvedName_eq_resolvedProgram {parameter : String} :
    resolvedName parameter = resolvedProgram ↔ upperCamel parameter = "ProgramId" := by
  have hprogram : resolvedProgram = "resolved" ++ "ProgramId" := by decide
  rw [resolvedName, hprogram, ← String.toList_inj, String.toList_append, String.toList_append,
    List.append_right_inj, String.toList_inj]

/-- Of the names of its own only that of the program begins like the local of an account. -/
theorem resolvedName_mem_ownNames {parameter : String} :
    resolvedName parameter ∈ builder.ownNames ↔ upperCamel parameter = "ProgramId" := by
  have hbegins : (resolvedName parameter).toList.head? = some 'r' := by
    rw [resolvedName, String.toList_append]
    rfl
  have hothers : ∀ word ∈ builder.ownNames, word.toList.head? = some 'r' →
      word = resolvedProgram := by
    unfold ownNames
    split <;> decide
  rw [← resolvedName_eq_resolvedProgram]
  constructor
  · intro hmem
    exact hothers _ hmem hbegins
  · intro hprogram
    rw [hprogram, ownNames]
    simp

/-- The locals of accounts are apart from each other and from the names of the builder's own. -/
theorem nodup_ownNames_append_iff (parameters : List String) :
    (builder.ownNames ++ parameters.map resolvedName).Nodup ↔
      ("ProgramId" :: parameters.map upperCamel).Nodup := by
  have hresolved : (parameters.map resolvedName).Nodup ↔ (parameters.map upperCamel).Nodup := by
    have hinjective : Function.Injective ("resolved" ++ ·) := by
      intro word other h
      simpa [← String.toList_inj] using h
    have hmap : parameters.map resolvedName = (parameters.map upperCamel).map ("resolved" ++ ·) :=
      List.map_map.symm
    rw [hmap, List.nodup_map_iff hinjective]
  have happart : (∀ own ∈ builder.ownNames, ∀ entry ∈ parameters.map resolvedName, own ≠ entry) ↔
      "ProgramId" ∉ parameters.map upperCamel := by
    constructor
    · intro happart hmem
      obtain ⟨parameter, hparameter, hname⟩ := List.mem_map.mp hmem
      exact happart _ (resolvedName_mem_ownNames.mpr hname) _ (List.mem_map_of_mem hparameter) rfl
    · rintro hnot own hown _ hentry rfl
      obtain ⟨parameter, hparameter, rfl⟩ := List.mem_map.mp hentry
      rw [← resolvedName_mem_ownNames.mp hown] at hnot
      exact hnot (List.mem_map_of_mem hparameter)
  rw [List.nodup_append, and_iff_right builder.nodup_ownNames, hresolved, happart, List.nodup_cons,
    and_comm]

/-- A parameter is called like a name of the builder's own if the account is. -/
theorem parameter_mem_ownNames (account : BuilderAccount) :
    account.parameter ∈ builder.ownNames ↔ lowerCamel account.account.name ∈ builder.ownNames := by
  constructor
  · intro hmem
    obtain ⟨hfree, hplain⟩ := free_of_mem_ownNames hmem
    rwa [(memberName_eq_iff_of_free hfree hplain).mp rfl]
  · intro hmem
    obtain ⟨hfree, hplain⟩ := free_of_mem_ownNames hmem
    rwa [BuilderAccount.parameter, (memberName_eq_iff_of_free hfree hplain).mpr rfl]

/-- When parameters are apart from all other names. -/
theorem parameters_apart_iff (builder : Builder) :
    (∀ parameter ∈ builder.accounts.map BuilderAccount.parameter,
      ∀ name ∈ builder.ownNames ++ builder.filled.map fun account => resolvedName account.parameter,
        parameter ≠ name) ↔
      (∀ account ∈ builder.accounts, lowerCamel account.account.name ∉ builder.ownNames) ∧
      ∀ account ∈ builder.accounts, ∀ other ∈ builder.filled,
        account.parameter ≠ resolvedName other.parameter := by
  simp only [List.forall_mem_map, List.forall_mem_append]
  constructor
  · intro happart
    refine ⟨fun account haccount hown => ?_, fun account haccount => (happart account haccount).2⟩
    exact (happart account haccount).1 _ ((parameter_mem_ownNames account).mpr hown) rfl
  · rintro ⟨hown, hlocals⟩ account haccount
    refine ⟨fun name hname hsame => ?_, hlocals account haccount⟩
    exact hown account haccount ((parameter_mem_ownNames account).mp (hsame ▸ hname))

/-- **When the names of a builder are distinct.** Each of them is declared on a line of the builder.
The accounts have distinct parameters. Then all names are distinct if and only if no account is
called like a name of the builder's own, no parameter is called like the local of an account, and
the locals of accounts are not called alike or like that of the program. -/
theorem nodup_identifiers_iff (builder : Builder)
    (hdistinct : (builder.accounts.map BuilderAccount.parameter).Nodup) :
    (∀ parameter ∈ builder.parameters,
      ∃ line ∈ builder.lines, DeclaresParameter line parameter.name) ∧
    (∀ name ∈ builder.localNames, ∃ line ∈ builder.lines, DeclaresLocal line name) ∧
    (builder.identifiers.Nodup ↔
      (∀ account ∈ builder.accounts, lowerCamel account.account.name ∉ builder.ownNames) ∧
      (∀ account ∈ builder.accounts, ∀ other ∈ builder.filled,
        account.parameter ≠ resolvedName other.parameter) ∧
      ("ProgramId" :: builder.filled.map fun account => upperCamel account.parameter).Nodup) := by
  have hbehind : (builder.ownNames ++
      builder.filled.map fun account => resolvedName account.parameter).Nodup ↔
        ("ProgramId" :: builder.filled.map fun account => upperCamel account.parameter).Nodup := by
    have hnames := builder.nodup_ownNames_append_iff (builder.filled.map (·.parameter))
    rwa [List.map_map, List.map_map] at hnames
  refine ⟨fun parameter => exists_line_of_parameter, fun name => exists_line_of_mem_localNames, ?_⟩
  rw [builder.identifiers_perm.nodup_iff, List.nodup_append, and_iff_right hdistinct, hbehind,
    builder.parameters_apart_iff, and_comm, and_assoc]

/-- The names are distinct where two safes are derived one after the other, and the local of the
second one is declared. -/
theorem nodup_identifiers_nestedSafes :
    (Resolver.nestedAccounts.map BuilderAccount.parameter).Nodup ∧
    Resolver.nestedBuilder.identifiers.Nodup ∧
    ∃ line ∈ Resolver.nestedBuilder.lines, DeclaresLocal line "resolvedInner" := by
  have hdistinct : (Resolver.nestedAccounts.map BuilderAccount.parameter).Nodup := by
    decide +kernel
  obtain ⟨-, hlocals, hnodup⟩ := nodup_identifiers_iff Resolver.nestedBuilder hdistinct
  refine ⟨hdistinct, hnodup.mpr ⟨?_, ?_, ?_⟩, hlocals _ ?_⟩ <;> decide +kernel

/-- An instruction whose accounts may all be left out. -/
def lenient (names : List String) : Instruction where
  name := "check"
  docs := []
  accounts := names.map fun name => { Resolver.safeAccount name none with isOptional := true }
  arguments := []
  discriminators := []

/-- Its builder: the accounts are marked as absent by the program. -/
def lenientBuilder (names : List String) : Builder :=
  ⟨lenient names, (lenient names).accounts.map (⟨·, .absent⟩), "Vault", []⟩

/-- The accounts have distinct names in the generated code, and their builder has a name twice. -/
def Clashes (names : List String) : Prop :=
  (Resolver.safeLinks none).builderAccounts .default (lenient names) =
    .ok (lenientBuilder names).accounts ∧
  ((lenientBuilder names).accounts.map BuilderAccount.parameter).Nodup ∧
  ¬ (lenientBuilder names).identifiers.Nodup

/-- An account is called like the program, an account is called like the local of another one, and
the locals of two accounts are called alike. -/
theorem not_nodup_identifiers : Clashes ["programId"] ∧ Clashes ["owner", "resolvedOwner"] ∧
    Clashes ["mint_a_b", "mint_ab"] := by
  refine ⟨⟨rfl, ?_⟩, ⟨rfl, ?_⟩, ⟨rfl, ?_⟩⟩ <;> decide +kernel

end Builder

end DartClient
