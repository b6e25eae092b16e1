import DartClient.Proofs.Manifest.Declarations
import DartClient.Proofs.Text.Words

/-!
# Names of members

Fields, parameters and factories are called by their names in lower camel case, and what is a
reserved word then gets an underscore behind it. A name in lower camel case has no underscore, and
neither has a reserved word. So the underscore tells where a word has been avoided, and the name in
lower camel case is what is left without it: avoiding reserved words makes no two names one, and
what comes out is never reserved, whatever letters the names are made of.

The fields of classes are called in this way wherever the class stands. Two fields of a class are
called alike exactly if their names are the same in lower camel case already.

## Main definitions

* `Manifest.HasFields`: the named fields of a class that a manifest shows or declares.

## Main results

* `filter_avoidReserved`: the word that has been avoided can be read back.
* `Resolver.namedAlike_of_builds`: how the fields of a class are called.
* `Resolver.memberName_keeps_apart`: names of members, and fields, are kept apart.
-/

namespace DartClient

open Idl (TypeNode StructField EnumVariant NumberFormat)
open Text (lowerCamel)

/-! ## Reserved words -/

theorem underscore_not_mem_lowerCamel (name : String) : '_' ∉ (lowerCamel name).toList :=
  Text.not_mem_lowerCamel (by decide) (by decide +kernel) (by decide)

theorem underscore_not_mem_of_reserved : ∀ word ∈ reservedWords, '_' ∉ word.toList := by
  decide

/-- A word is left as it is unless it is reserved. -/
theorem avoidReserved_cases (word : String) :
    (word ∉ reservedWords ∧ avoidReserved word = word) ∨
      (word ∈ reservedWords ∧ avoidReserved word = word ++ "_") := by
  unfold avoidReserved
  split
  case isTrue hreserved => exact .inr ⟨List.contains_iff_mem.mp hreserved, rfl⟩
  case isFalse hfree => exact .inl ⟨fun hmem => hfree (List.contains_iff_mem.mpr hmem), rfl⟩

/-- **A word that has been avoided is not reserved.** -/
theorem avoidReserved_not_mem (word : String) : avoidReserved word ∉ reservedWords := by
  rcases avoidReserved_cases word with ⟨hfree, hword⟩ | ⟨-, hword⟩
  · rwa [hword]
  · intro hmem
    rw [hword] at hmem
    refine underscore_not_mem_of_reserved _ hmem ?_
    rw [String.toList_append]
    exact List.mem_append_right _ List.mem_cons_self

/-- **A word without underscores can be read back** after it has been avoided. -/
theorem filter_avoidReserved {word : String} (h : '_' ∉ word.toList) :
    (avoidReserved word).toList.filter (· != '_') = word.toList := by
  have hword : word.toList.filter (· != '_') = word.toList := by
    refine List.filter_eq_self.mpr fun c hc => bne_iff_ne.mpr ?_
    rintro rfl
    exact h hc
  rcases avoidReserved_cases word with ⟨-, hsame⟩ | ⟨-, hmarked⟩
  · rw [hsame, hword]
  · have hmark : "_".toList.filter (· != '_') = [] := by decide
    rw [hmarked, String.toList_append, List.filter_append, hword, hmark, List.append_nil]

/-- Avoiding reserved words makes no two words without underscores one. -/
theorem avoidReserved_inj {word other : String} (hword : '_' ∉ word.toList)
    (hother : '_' ∉ other.toList) : avoidReserved word = avoidReserved other ↔ word = other := by
  constructor
  · intro h
    rw [← String.toList_inj, ← filter_avoidReserved hword, ← filter_avoidReserved hother, h]
  · rintro rfl
    rfl

/-- **Names of members are the same** if and only if they are so in lower camel case. -/
theorem memberName_inj {name other : String} :
    memberName name = memberName other ↔ lowerCamel name = lowerCamel other :=
  avoidReserved_inj (underscore_not_mem_lowerCamel name) (underscore_not_mem_lowerCamel other)

/-! ## Fields of classes -/

/-- The named fields of a class, or of a variant of one. -/
inductive Shape.HasFields : Shape → List FieldManifest → Prop
  | struct (fields : List FieldManifest) : HasFields (.struct fields) fields
  | variant {size : NumberFormat} {variants : List VariantManifest} {variant : VariantManifest}
      {fields : List FieldManifest} (hvariant : variant ∈ variants)
      (hpayload : variant.payload = .struct fields) : HasFields (.enum size variants) fields

/-- The named fields of the class that a type is, or of one that stands beside it. -/
inductive Manifest.HasFields (manifest : Manifest) (fields : List FieldManifest) : Prop
  | own (h : manifest.shape.HasFields fields)
  | beside {declaration : Declaration} (hdeclaration : declaration ∈ manifest.declarations)
      (h : declaration.shape.HasFields fields)

/-- The fields are called by their names in the description. -/
def NamedAlike (fields : List FieldManifest) : Prop :=
  ∀ field ∈ fields, field.name = memberName field.sourceName

theorem Shape.not_hasFields_plain {fields : List FieldManifest} : ¬ Shape.plain.HasFields fields :=
  nofun

theorem FieldNaming.spell_eq (naming : FieldNaming) (name : String) :
    naming.spell name = memberName name := by
  cases naming <;> rfl

namespace Manifest

variable {manifest : Manifest} {fields : List FieldManifest} {children : List Manifest}

/-- The fields that a type shows are the named fields of the class that it is. -/
theorem hasFields_of_fields? (h : manifest.fields? = some fields) : manifest.HasFields fields := by
  unfold fields? at h
  split at h
  case h_1 shown hshape =>
    obtain rfl := Option.some.inj h
    exact .own (hshape ▸ .struct shown)
  case h_2 => cases h

/-- A type that is no class itself has the classes of the types inside. -/
theorem HasFields.of_plain (h : manifest.HasFields fields) (hshape : manifest.shape = .plain)
    (hdeclarations : ∀ declaration ∈ manifest.declarations,
      ∃ child ∈ children, declaration ∈ child.declarations) :
    ∃ child ∈ children, child.HasFields fields := by
  cases h with
  | own h =>
    rw [hshape] at h
    exact absurd h Shape.not_hasFields_plain
  | beside hdeclaration h =>
    obtain ⟨child, hchild, hmem⟩ := hdeclarations _ hdeclaration
    exact ⟨child, hchild, .beside hmem h⟩

/-- A class has its own fields, and the classes of the types inside have theirs. -/
theorem HasFields.of_class {ctx : ResolveContext} {name : String} {codec : Codec} {shape : Shape}
    (h : (classManifest ctx name codec shape children).HasFields fields) :
    shape.HasFields fields ∨ ∃ child ∈ children, child.HasFields fields := by
  cases h with
  | own h =>
    cases hdeclares : ctx.declares with
    | true =>
      rw [Resolver.shape_classManifest hdeclares] at h
      exact absurd h Shape.not_hasFields_plain
    | false =>
      left
      simpa [classManifest, hdeclares] using h
  | beside hdeclaration h =>
    rcases mem_declarations_classManifest hdeclaration with ⟨-, rfl⟩ | ⟨child, hchild, hmem⟩
    · exact .inl h
    · exact .inr ⟨child, hchild, .beside hmem h⟩

end Manifest

/-- The fields of a struct are called by their names. -/
theorem namedAlike_ofFields {ctx : ResolveContext} {declared : List StructField}
    {children : List Manifest} :
    NamedAlike (declared.zipWith (FieldManifest.ofField ctx) children) := by
  intro field hfield
  rw [← List.map_uncurry_zip_eq_zipWith] at hfield
  obtain ⟨⟨declared, manifest⟩, -, rfl⟩ := List.mem_map.mp hfield
  exact FieldNaming.spell_eq ctx.naming declared.name

/-- The named fields of a variant are those of the struct that they have been resolved as. -/
theorem hasFields_of_mem_ofVariants {variant : VariantManifest} {fields : List FieldManifest}
    {variants : List EnumVariant} : ∀ {index : Nat} {parts : List (List Manifest)},
    variant ∈ VariantManifest.ofVariants index variants parts →
      variant.payload = .struct fields → fields = [] ∨
        ∃ child ∈ parts.flatten, child.HasFields fields := by
  -- The parts of the variants are taken one after the other, so they and the index are general.
  induction variants with
  | nil =>
    intro index parts hvariant
    cases hvariant
  | cons declared variants ih =>
    intro index parts hvariant hpayload
    cases parts with
    | nil => cases hvariant
    | cons part parts =>
      rcases List.mem_cons.mp hvariant with rfl | hvariant
      · cases declared with
        | empty | tuple => cases hpayload
        | struct name named =>
          obtain rfl := VariantPayload.struct.inj hpayload
          cases part with
          | nil => exact .inl rfl
          | cons child part =>
            cases hfields : child.fields? with
            | none => exact .inl (by simp [hfields])
            | some shown =>
              refine .inr ⟨child, List.mem_append_left _ List.mem_cons_self, ?_⟩
              simpa [hfields] using Manifest.hasFields_of_fields? hfields
      · refine (ih hvariant hpayload).imp_right ?_
        rintro ⟨child, hchild, h⟩
        exact ⟨child, List.mem_append_right _ hchild, h⟩

namespace Resolver

variable {resolver : Resolver} {ctx : ResolveContext} {manifest : Manifest}

/-- What is put together has fields called by their names if its parts have such fields only. -/
theorem namedAlike_of_composes {node : TypeNode} {children : List Manifest}
    (hcomposes : resolver.Composes ctx node children manifest)
    (hchildren : ∀ child ∈ children, ∀ fields, child.HasFields fields → NamedAlike fields)
    {fields : List FieldManifest} (h : manifest.HasFields fields) : NamedAlike fields := by
  have hbelow : (∃ child ∈ children, child.HasFields fields) → NamedAlike fields := by
    rintro ⟨child, hchild, hfields⟩
    exact hchildren child hchild fields hfields
  cases hcomposes with
  | leaf _ _ hleaf =>
    refine hbelow (h.of_plain hleaf.shape_eq ?_)
    cases hleaf <;> exact List.forall_mem_nil _
  | structLink | enumLink => exact hbelow (h.of_plain rfl (List.forall_mem_nil _))
  | around =>
    exact hbelow (h.of_plain rfl fun _ hmem => ⟨_, List.mem_cons_self, hmem⟩)
  | sized =>
    -- A size keeps the class that the type below it is.
    refine hbelow ⟨_, List.mem_cons_self, ?_⟩
    cases h with
    | own h => exact .own h
    | beside hdeclaration h => exact .beside hdeclaration h
  | map =>
    refine hbelow (h.of_plain rfl fun declaration hmem => ?_)
    rcases Manifest.mem_declarations_absorb hmem with hmem | hmem
    · exact ⟨_, List.mem_cons_self, hmem⟩
    · exact ⟨_, List.mem_cons_of_mem _ List.mem_cons_self, hmem⟩
  | tuple =>
    refine hbelow (h.of_plain rfl fun declaration hmem => ?_)
    exact (Manifest.mem_declarations_foldl_absorb _ hmem).resolve_left List.not_mem_nil
  | struct =>
    rcases h.of_class with hown | hchild
    · cases hown
      exact namedAlike_ofFields
    · exact hbelow hchild
  | enum =>
    rcases h.of_class with hown | hchild
    · cases hown with
      | variant hvariant hpayload =>
        rcases hasFields_of_mem_ofVariants hvariant hpayload with rfl | hchild
        · exact List.forall_mem_nil _
        · exact hbelow hchild
    · exact hbelow hchild

/-- **The fields of a class are called by their names** in the description, wherever the class
stands. -/
theorem namedAlike_of_builds {node : TypeNode} (h : resolver.Builds node ctx manifest) :
    ∀ {fields : List FieldManifest}, manifest.HasFields fields → NamedAlike fields := by
  -- The induction is on how the manifest is built.
  induction h with
  | compose hcomposes hlength _ ih =>
    intro fields hfields
    refine namedAlike_of_composes hcomposes (fun child hchild fields hbelow => ?_) hfields
    obtain ⟨part, hpart⟩ := exists_mem_zip_of_mem_right hlength hchild
    exact ih _ hpart hbelow
  | synonym =>
    -- The classes beside the type of an alias stand in the file of the alias.
    intro fields hfields
    cases hfields with
    | own h => exact absurd h Shape.not_hasFields_plain
    | beside hdeclaration => cases hdeclaration

end Resolver

/-- No name of a field is reserved, and two fields are called alike exactly if their names are the
same in lower camel case. -/
def Manifest.KeepsFieldsApart (manifest : Manifest) : Prop :=
  ∀ fields, manifest.HasFields fields → ∀ field ∈ fields, field.name ∉ reservedWords ∧
    ∀ other ∈ fields,
      (field.name = other.name ↔ lowerCamel field.sourceName = lowerCamel other.sourceName)

namespace Resolver

variable {resolver : Resolver} {ctx : ResolveContext} {manifest : Manifest}

theorem keepsFieldsApart_of_builds {node : TypeNode} (h : resolver.Builds node ctx manifest) :
    manifest.KeepsFieldsApart := by
  intro fields hfields field hfield
  have hnamed := namedAlike_of_builds h hfields
  rw [hnamed field hfield]
  refine ⟨avoidReserved_not_mem _, fun other hother => ?_⟩
  rw [hnamed other hother]
  exact memberName_inj

/-- **Avoiding reserved words keeps names apart.** All members are called in one way: two names
become one if and only if they are the same in lower camel case, and no name becomes a reserved
word. So two fields of a class that is made of a type, or of the arguments of an instruction, are
called alike only if their names were the same in lower camel case. -/
theorem memberName_keeps_apart :
    (∀ (naming : FieldNaming) (name : String), naming.spell name = memberName name) ∧
    (∀ name other, memberName name = memberName other ↔ lowerCamel name = lowerCamel other) ∧
    (∀ name, memberName name ∉ reservedWords) ∧
    ∀ (resolver : Resolver) (ctx : ResolveContext) (manifest : Manifest),
      (∀ node, resolver.resolve node ctx = .ok manifest → manifest.KeepsFieldsApart) ∧
      ∀ arguments, resolver.resolveArguments arguments ctx = .ok manifest →
        manifest.KeepsFieldsApart := by
  refine ⟨FieldNaming.spell_eq, fun _ _ => memberName_inj, fun _ => avoidReserved_not_mem _, ?_⟩
  intro resolver ctx manifest
  refine ⟨fun node h => keepsFieldsApart_of_builds (builds_of_resolve h), fun arguments h => ?_⟩
  exact keepsFieldsApart_of_builds (builds_of_struct builds_of_resolve h)

/-- A class whose fields are called by reserved words, or nearly so. -/
def reservedFields : TypeNode :=
  .struct (["class", "class_", "Class Of", "new"].map fun name => .plain name .publicKey)

/-- The two fields that are one in lower camel case have one name, and the others keep theirs. -/
theorem memberName_keeps_apart_reserved : ∃ manifest fields,
    inPlace.resolve reservedFields (.root "Reserved" .account) = .ok manifest ∧
    manifest.fields? = some fields ∧ fields.map (·.name) = ["class_", "class_", "classOf", "new_"] ∧
    manifest.KeepsFieldsApart := by
  obtain ⟨manifest, fields, h, hfields, hnames⟩ : ∃ manifest fields,
      inPlace.resolve reservedFields (.root "Reserved" .account) = .ok manifest ∧
      manifest.fields? = some fields ∧
      fields.map (·.name) = ["class_", "class_", "classOf", "new_"] :=
    ⟨_, _, rfl, rfl, by decide +kernel⟩
  exact ⟨manifest, fields, h, hfields, hnames,
    (memberName_keeps_apart.2.2.2 inPlace _ manifest).1 _ h⟩

end Resolver

end DartClient
