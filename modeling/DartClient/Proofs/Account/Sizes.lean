import DartClient.Proofs.Account.Fields
import DartClient.Proofs.Codec.Unknown

/-!
# Sizes of accounts

The class of an account tells its size where there is one: the declared size, or else the computed
size of the layout. Data with a part of unknown kind has no computed size, so the page of such an
account tells the size only if it is declared.

## Main definitions

* `AccountClass.declaredConstants`: the static members if no size is computed.

## Main results

* `Codec.no_size_of_reaches_unknown`: a part of unknown kind leaves no size, on the page neither.
-/

namespace DartClient

open Idl (Account StructField TypeNode)

namespace AccountClass

variable {cls : AccountClass}

/-- The static members if no size is computed: the discriminator and the declared size. -/
def declaredConstants (cls : AccountClass) : List String :=
  ("static final DISCRIMINATOR = " ++ byteListLiteral cls.discriminator.bytes ++ ";") ::
    (cls.account.size.map fun size => "static const int SIZE = " ++ toString size ++ ";").toList

/-- The record of the class with other static members. -/
def recordWith (cls : AccountClass) (constants : List String) : RecordClass :=
  { cls.record with constants := constants }

/-- Where the layout has no size, only a declared one is left, framed or not. -/
theorem size?_of_fixedSize?_eq_none (h : cls.manifest.codec.fixedSize? = none) :
    cls.size? = cls.account.size := by
  rw [size?, h]
  cases cls.account.size <;> rfl

theorem constants_of_size?_eq (h : cls.size? = cls.account.size) :
    cls.constants = cls.declaredConstants := by
  rw [constants, declaredConstants, h, List.singleton_append]

theorem file_eq (cls : AccountClass) : cls.file = ⟨none, some cls.stem,
    .record (cls.recordWith cls.constants) ::
      cls.manifest.declarations.flatMap declarationItems⟩ := rfl

theorem body_page (cls : AccountClass) : cls.page.body = Text.unlines cls.file.lines := by
  rw [page, Page.ofSource]

/-- The text of the page with the declared members in the class. -/
theorem body_page_of_size?_eq (h : cls.size? = cls.account.size) :
    cls.page.body = Text.unlines (SourceFile.lines ⟨none, some cls.stem,
      .record (cls.recordWith cls.declaredConstants) ::
        cls.manifest.declarations.flatMap declarationItems⟩) := by
  rw [body_page, file_eq, constants_of_size?_eq h]

end AccountClass

/-- The class of an account is that of the account. -/
theorem Resolver.account_of_accountClass {resolver : Resolver} {account : Account}
    {cls : AccountClass} (h : resolver.accountClass account = .ok cls) :
    cls.account = account := by
  obtain ⟨manifest, -, hrest⟩ := Resolved.bind_eq_ok_iff.mp h
  obtain ⟨discriminator, -, hresult⟩ := Resolved.bind_eq_ok_iff.mp hrest
  obtain rfl := Except.ok.inj hresult
  rfl

theorem Resolver.accountPage_of_accountClass {resolver : Resolver} {account : Account}
    {cls : AccountClass} (h : resolver.accountClass account = .ok cls) :
    resolver.accountPage account = .ok ⟨[cls.page], cls.manifest.diagnostics⟩ :=
  Resolved.bind_eq_ok_iff.mpr ⟨cls, h, rfl⟩

namespace Codec

/-- **A part of unknown kind leaves no size.** A codec in which a part of unknown kind occurs
outside of declared sizes has no exact and no greatest size. So an account with such data is
rendered, but its page tells no size except a declared one. -/
theorem no_size_of_reaches_unknown {codec : Codec} {kind : String}
    (h : codec.Reaches (fun codec => codec.isFixedSize = false) (.unknown kind)) :
    codec.fixedSize? = none ∧ codec.maxSize? = none ∧
      ∀ (resolver : Resolver) (account : Account) (cls : AccountClass),
        resolver.accountClass account = .ok cls → cls.manifest.codec = codec →
          cls.size? = account.size ∧
          resolver.accountPage account = .ok ⟨[cls.page], cls.manifest.diagnostics⟩ ∧
          cls.page.body = Text.unlines (SourceFile.lines ⟨none, some cls.stem,
            .record (cls.recordWith cls.declaredConstants) ::
              cls.manifest.declarations.flatMap declarationItems⟩) := by
  obtain ⟨hfixed, hmax⟩ := sizes_eq_none_of_reaches h
  refine ⟨hfixed, hmax, fun resolver account cls hclass hcodec => ?_⟩
  have hsize : cls.size? = cls.account.size :=
    AccountClass.size?_of_fixedSize?_eq_none (hcodec ▸ hfixed)
  refine ⟨?_, Resolver.accountPage_of_accountClass hclass,
    AccountClass.body_page_of_size?_eq hsize⟩
  rw [hsize, Resolver.account_of_accountClass hclass]

/-- A list that is always empty, of values of unknown kind that may be absent. -/
def spareField : StructField :=
  ⟨"spare", .array (.option .unknown ⟨.u8, .little⟩ true) (.fixed 0), [], none⟩

/-- A counter with spare values has no size, although there is never a value. -/
theorem no_size_of_spare_values : ∃ cls,
    Resolver.linkless.accountClass (Resolver.stamped [Resolver.countField, spareField]) =
      .ok cls ∧
    cls.manifest.codec.Reaches (fun codec => codec.isFixedSize = false)
      (.unknown TypeNode.unknown.kind) ∧
    cls.manifest.codec.fixedSize? = none ∧ cls.manifest.codec.maxSize? = none ∧
    cls.size? = none := by
  have hcls : ∃ cls,
      Resolver.linkless.accountClass (Resolver.stamped [Resolver.countField, spareField]) =
        .ok cls ∧
      cls.manifest.codec = .struct "Counter" [⟨"count", .number .u8⟩,
        ⟨"spare", .list (.option (.unknown TypeNode.unknown.kind) .u8 true) (.fixed 0)⟩] :=
    ⟨_, rfl, rfl⟩
  obtain ⟨cls, hclass, hcodec⟩ := hcls
  have hreaches : cls.manifest.codec.Reaches (fun codec => codec.isFixedSize = false)
      (.unknown TypeNode.unknown.kind) := by
    rw [hcodec]
    refine .inside rfl (List.mem_cons_of_mem _ List.mem_cons_self) ?_
    refine .inside rfl List.mem_cons_self ?_
    exact .inside rfl List.mem_cons_self (.here _)
  obtain ⟨hfixed, hmax, hpage⟩ := no_size_of_reaches_unknown hreaches
  exact ⟨cls, hclass, hreaches, hfixed, hmax, (hpage _ _ cls hclass rfl).1⟩

end Codec

end DartClient
