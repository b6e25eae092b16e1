import DartClient.Proofs.Manifest.Links

/-!
# Types of other programs

A link may name the program that declares its type. A class is the same from every program. An
alias is looked up in the program that declares it, but the links inside the alias that name no
program are then looked up in the program that the outer link stands in. So an alias is the same
from both programs if these links lead to the same in both, and it is refused if one of them leads
nowhere.

## Main results

* `Resolver.exists_undeclared_of_meets`: a link that is lost in another program is met there too.
* `Resolver.resolve_linked`: when a type is the same from another program, and when it is refused.
-/

namespace DartClient

open Idl (TypeNode DefinedType)

namespace Resolver

variable {resolver resolver' : Resolver} {name : String} {program program' : Option String}
  {ctx : ResolveContext}

/-- Links that lead to the same are resolved alike. -/
theorem resolve_link_congr
    (htarget : SameTarget (resolver.target name program) (resolver'.target name program'))
    (hchild : ∀ defined, resolver.target name program = some defined →
      DefinedShape.ofType defined.type = .synonym → ∀ levels,
        resolver.resolveWithin levels defined.type = resolver'.resolveWithin levels defined.type) :
    resolver.resolve (.link name program) ctx = resolver'.resolve (.link name program') ctx := by
  unfold resolve
  cases levelsBelow ctx.depth with
  | zero => rfl
  | succ levels =>
    have hlink : resolver.linkManifest (resolver.resolveWithin levels) ctx name program =
        resolver'.linkManifest (resolver'.resolveWithin levels) ctx name program' :=
      linkManifest_congr htarget fun defined hdefined hshape =>
        hchild defined hdefined hshape levels
    simp only [resolveWithin, resolveLevel, hlink]
    rfl

/-- If a link on the way through a type leads nowhere for another resolver, then that resolver meets
such a link itself, provided that up to there the links lead to the same. -/
theorem exists_undeclared_of_meets {node : TypeNode} (hmeets : resolver.Meets node name program)
    (hlost : resolver'.target name program = none) :
    (∀ link linkProgram, resolver.Meets node link linkProgram →
      resolver'.target link linkProgram = none ∨
        SameTarget (resolver.target link linkProgram) (resolver'.target link linkProgram)) →
    ∃ lost lostProgram, resolver'.Meets node lost lostProgram ∧
      resolver'.target lost lostProgram = none := by
  induction hmeets with
  | link name program => exact fun _ => ⟨name, program, .link name program, hlost⟩
  | part hpart _ ih =>
    intro hclear
    obtain ⟨lost, lostProgram, hmeets, hnone⟩ := ih hlost fun link linkProgram hmeets =>
      hclear link linkProgram (.part hpart hmeets)
    exact ⟨lost, lostProgram, .part hpart hmeets, hnone⟩
  | @synonym link linkProgram defined _ _ htarget hshape _ ih =>
    intro hclear
    obtain ⟨lost, lostProgram, hmeets, hnone⟩ := ih hlost fun link linkProgram hmeets =>
      hclear link linkProgram (.synonym htarget hshape hmeets)
    -- Either the way ends at this alias, or it goes on in the same type.
    rcases hclear link linkProgram (.link link linkProgram) with hundeclared | hsame
    · exact ⟨link, linkProgram, .link link linkProgram, hundeclared⟩
    · cases htarget' : resolver'.target link linkProgram with
      | none => exact ⟨link, linkProgram, .link link linkProgram, htarget'⟩
      | some defined' =>
        rw [htarget, htarget'] at hsame
        obtain ⟨hshape', htype⟩ := hsame
        rw [htype hshape] at hmeets
        exact ⟨lost, lostProgram, .synonym htarget' (hshape'.symm.trans hshape) hmeets, hnone⟩

/-- **A type that another program declares** is resolved as that program resolves it if it is a
class, and also if the links inside it that name no program lead to the same in both programs. If
one of these links leads nowhere, the type is refused. -/
theorem resolve_linked {dictionary : Dictionary} {owner user name : String} {defined : DefinedType}
    {ctx : ResolveContext} {manifest : Manifest}
    (hdefined : dictionary.definedType? owner name none = some defined)
    (h : Resolver.resolve ⟨dictionary, owner⟩ (.link name none) ctx = .ok manifest) :
    ((DefinedShape.ofType defined.type = .synonym → ∀ link,
        Meets ⟨dictionary, owner⟩ defined.type link none →
          SameTarget (dictionary.definedType? owner link none)
            (dictionary.definedType? user link none)) →
      Resolver.resolve ⟨dictionary, user⟩ (.link name (some owner)) ctx = .ok manifest) ∧
    (DefinedShape.ofType defined.type = .synonym →
      (∃ link, Meets ⟨dictionary, owner⟩ defined.type link none ∧
        dictionary.definedType? user link none = none) →
      (∀ link, Meets ⟨dictionary, owner⟩ defined.type link none →
        dictionary.definedType? user link none = none ∨
          SameTarget (dictionary.definedType? owner link none)
            (dictionary.definedType? user link none)) →
      ∀ result,
        Resolver.resolve ⟨dictionary, user⟩ (.link name (some owner)) ctx ≠ .ok result) := by
  constructor
  · intro hsame
    rw [← h]
    symm
    apply resolve_link_congr
    · exact SameTarget.refl _
    · intro other hother hshape levels
      obtain rfl := Option.some.inj (hdefined.symm.trans hother)
      apply resolveWithin_eq_of_sameTarget
      -- A link that names its program leads to the same from everywhere.
      rintro link (_ | program) hmeets
      · exact hsame hshape link hmeets
      · exact SameTarget.refl _
  · rintro hshape ⟨link, hmeets, hlost⟩ hclear result hresult
    have hlost' : Resolver.target ⟨dictionary, user⟩ link none = none := hlost
    obtain ⟨lost, lostProgram, hmeets', hnone⟩ := exists_undeclared_of_meets hmeets hlost' (by
      rintro link (_ | program) hmeets
      · exact hclear link hmeets
      · exact .inr (SameTarget.refl _))
    have hmet : Meets ⟨dictionary, user⟩ (.link name (some owner)) lost lostProgram :=
      .synonym hdefined hshape hmeets'
    have hsome := isSome_of_meets hmet (lays_of_resolve hresult)
    rw [hnone] at hsome
    cases hsome

/-- Two programs. The shop declares a label as the bank does and a seal otherwise than the bank, and
knows no wax. -/
def shopAndBank : Dictionary := .ofPrograms [
  .ofTypes "shop" [⟨"label", .string .utf8, []⟩, ⟨"seal", .number ⟨.u8, .little⟩, []⟩],
  .ofTypes "bank" [⟨"label", .string .utf8, []⟩, ⟨"seal", .string .utf8, []⟩, ⟨"wax", .bytes, []⟩,
    ⟨"tag", .option (.link "label" none) ⟨.u8, .little⟩ false, []⟩,
    ⟨"mark", .link "seal" none, []⟩, ⟨"stamp", .link "wax" none, []⟩]]

/-- The types of the bank. -/
def bank : Resolver := ⟨shopAndBank, "bank"⟩

/-- The types of the shop. -/
def shop : Resolver := ⟨shopAndBank, "shop"⟩

/-- A tag of the bank is the same in the shop, and a stamp of the bank is refused there. -/
theorem resolve_linked_shop : ∃ tag stamp,
    bank.resolve (.link "tag" none) (.root "Sale" .type) = .ok tag ∧
    shop.resolve (.link "tag" (some "bank")) (.root "Sale" .type) = .ok tag ∧
    bank.resolve (.link "stamp" none) (.root "Sale" .type) = .ok stamp ∧
    ∀ result, shop.resolve (.link "stamp" (some "bank")) (.root "Sale" .type) ≠ .ok result := by
  have htag : ∃ tag, bank.resolve (.link "tag" none) (.root "Sale" .type) = .ok tag := ⟨_, rfl⟩
  have hstamp : ∃ stamp, bank.resolve (.link "stamp" none) (.root "Sale" .type) = .ok stamp :=
    ⟨_, rfl⟩
  obtain ⟨tag, htag⟩ := htag
  obtain ⟨stamp, hstamp⟩ := hstamp
  have hlabel : bank.target "label" none = some ⟨"label", .string .utf8, []⟩ := rfl
  have hwax : bank.target "wax" none = some ⟨"wax", .bytes, []⟩ := rfl
  refine ⟨tag, stamp, htag, ?_, hstamp, ?_⟩
  · refine (@resolve_linked shopAndBank "bank" "shop" "tag" _ _ _ rfl htag).1 ?_
    intro _ link hmeets
    obtain ⟨part, hpart, hmeets⟩ := exists_part_of_meets (fun _ _ => by simp) hmeets
    obtain rfl := List.mem_singleton.mp hpart
    obtain ⟨rfl, -⟩ := eq_of_meets_link hlabel rfl (fun _ _ => by simp) hmeets
    exact ⟨rfl, fun _ => rfl⟩
  · have hmet : bank.Meets (.link "wax" none) "wax" none := .link "wax" none
    refine (@resolve_linked shopAndBank "bank" "shop" "stamp" _ _ _ rfl hstamp).2 rfl
      ⟨"wax", hmet, rfl⟩ fun link hmeets => ?_
    obtain ⟨rfl, -⟩ := eq_of_meets_link hwax rfl (fun _ _ => by simp) hmeets
    exact .inl rfl

/-- A mark of the bank is a text inside the bank and a number inside the shop. -/
theorem resolve_mark_ne : ∃ inside outside,
    bank.resolve (.link "mark" none) (.root "Sale" .type) = .ok inside ∧
    shop.resolve (.link "mark" (some "bank")) (.root "Sale" .type) = .ok outside ∧
    inside.codec = .string .borsh ∧ outside.codec = .number .u8 :=
  ⟨_, _, rfl, rfl, rfl, rfl⟩

end Resolver

end DartClient
