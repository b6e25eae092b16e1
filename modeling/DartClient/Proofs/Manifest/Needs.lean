import DartClient.Proofs.Imports.Symbols
import DartClient.Proofs.Manifest.Building
import DartClient.Source.File

/-!
# What manifests need

A manifest imports what the manifests inside it import, and besides what its own type needs: a leaf
may need typed lists or addresses, a link shows symbols of the file of its target. No file is
imported as a whole. The classes beside a type are those beside the types inside it, and the type
itself where it is a class that stands beside its user.

Which names these classes have is told by the type and its context, however deep the type is nested
and wherever its links lead. That is why a file that uses an alias and the file of the alias, which
resolve the same type each for itself, agree on them.

## Main definitions

* `Manifest.declaredNames`: the names of the classes beside a type.
* `Declares`: the same, told by the type.
* `Shows`: the symbols that a link shows of its target.
* `Resolver.Draws`: the symbols that the links on the way through a type show.
* `Resolver.LeafImport`: what leaves import.

## Main results

* `Resolver.mem_declaredNames_of_builds`: the classes beside a type are told by the type.
* `Resolver.source_of_builds`: whatever a manifest imports is needed by a leaf or drawn by a link.
* `Resolver.contains_of_draws`: a manifest imports whatever a link draws.
-/

namespace DartClient

open Idl (TypeNode StructField EnumVariant NumberType NumberFormat Count DefinedType)

/-! ## Needing what others need -/

namespace Manifest

variable {manifest child : Manifest} {module symbol name : String}

/-- The names of the classes beside a type. -/
def declaredNames (manifest : Manifest) : List String := manifest.declarations.map Declaration.name

@[simp] theorem declaredNames_leaf (targetType : String) (codec : Codec) :
    (leaf targetType codec).declaredNames = [] := rfl

@[simp] theorem declaredNames_withImport (symbols : List String) :
    (manifest.withImport module symbols).declaredNames = manifest.declaredNames := rfl

@[simp] theorem declaredNames_wrap (targetType : String) (codec : Codec) :
    (manifest.wrap targetType codec).declaredNames = manifest.declaredNames := rfl

@[simp] theorem imports_leaf (targetType : String) (codec : Codec) :
    (leaf targetType codec).imports = .empty := rfl

@[simp] theorem imports_wrap (targetType : String) (codec : Codec) :
    (manifest.wrap targetType codec).imports = manifest.imports := rfl

@[simp] theorem imports_declare (manifest : Manifest) (declaration : Declaration) :
    (manifest.declare declaration).imports = manifest.imports := by
  obtain ⟨_, h⟩ := manifest.exists_declare_eq declaration
  rw [h]

@[simp] theorem mem_declaredNames_declare (declaration : Declaration) :
    name ∈ (manifest.declare declaration).declaredNames ↔
      name ∈ manifest.declaredNames ∨ name = declaration.name := by
  unfold declare
  split
  case isTrue hany =>
    obtain ⟨other, hmem, hname⟩ := List.any_eq_true.mp hany
    constructor
    · exact .inl
    · rintro (h | rfl)
      · exact h
      · exact List.mem_map.mpr ⟨other, hmem, eq_of_beq hname⟩
  case isFalse => simp [declaredNames]

@[simp] theorem mem_declaredNames_foldl_declare (declarations : List Declaration) :
    name ∈ (declarations.foldl declare manifest).declaredNames ↔
      name ∈ manifest.declaredNames ∨ name ∈ declarations.map Declaration.name := by
  induction declarations generalizing manifest with
  | nil => simp
  | cons declaration declarations ih =>
    rw [List.foldl_cons, ih, mem_declaredNames_declare, List.map_cons, List.mem_cons, or_assoc]

theorem imports_absorb :
    (manifest.absorb child).imports = manifest.imports.merge child.imports := by
  obtain ⟨_, h⟩ := exists_foldl_declare_eq child.declarations
    { manifest with imports := manifest.imports.merge child.imports }
  rw [absorb, h]

@[simp] theorem mem_declaredNames_absorb : name ∈ (manifest.absorb child).declaredNames ↔
    name ∈ manifest.declaredNames ∨ name ∈ child.declaredNames :=
  mem_declaredNames_foldl_declare child.declarations

theorem contains_foldl_absorb (children : List Manifest) :
    (children.foldl absorb manifest).imports.contains module symbol = true ↔
      manifest.imports.contains module symbol = true ∨
        ∃ child ∈ children, child.imports.contains module symbol = true := by
  induction children generalizing manifest with
  | nil => simp
  | cons child children ih =>
    rw [List.foldl_cons, ih, imports_absorb, ImportMap.contains_merge]
    simp [or_assoc]

theorem whole_foldl_absorb (children : List Manifest) :
    (children.foldl absorb manifest).imports.Whole module ↔
      manifest.imports.Whole module ∨ ∃ child ∈ children, child.imports.Whole module := by
  induction children generalizing manifest with
  | nil => simp
  | cons child children ih =>
    rw [List.foldl_cons, ih, imports_absorb, ImportMap.whole_merge]
    simp [or_assoc]

theorem mem_declaredNames_foldl_absorb (children : List Manifest) :
    name ∈ (children.foldl absorb manifest).declaredNames ↔
      name ∈ manifest.declaredNames ∨ ∃ child ∈ children, name ∈ child.declaredNames := by
  induction children generalizing manifest with
  | nil => simp
  | cons child children ih =>
    rw [List.foldl_cons, ih, mem_declaredNames_absorb]
    simp [or_assoc]

end Manifest

section Class

variable {ctx : ResolveContext} {own module symbol name : String} {codec : Codec} {shape : Shape}
  {children : List Manifest}

theorem imports_classManifest : (classManifest ctx own codec shape children).imports =
    (children.foldl Manifest.absorb (.leaf own codec)).imports := by
  unfold classManifest
  split
  · exact Manifest.imports_declare _ _
  · rfl

/-- A class imports what its parts import. -/
theorem contains_classManifest :
    (classManifest ctx own codec shape children).imports.contains module symbol = true ↔
      ∃ child ∈ children, child.imports.contains module symbol = true := by
  rw [imports_classManifest, Manifest.contains_foldl_absorb]
  simp

theorem whole_classManifest : (classManifest ctx own codec shape children).imports.Whole module ↔
    ∃ child ∈ children, child.imports.Whole module := by
  rw [imports_classManifest, Manifest.whole_foldl_absorb]
  simp

/-- A class that stands beside its user is declared besides the classes of its parts. -/
theorem mem_declaredNames_classManifest :
    name ∈ (classManifest ctx own codec shape children).declaredNames ↔
      (ctx.declares = true ∧ name = own) ∨ ∃ child ∈ children, name ∈ child.declaredNames := by
  unfold classManifest
  split
  case isTrue hdeclares =>
    rw [Manifest.mem_declaredNames_declare, Manifest.mem_declaredNames_foldl_absorb, or_comm]
    simp [hdeclares]
  case isFalse hdeclares =>
    have hshape : name ∈ ({ children.foldl Manifest.absorb (.leaf own codec) with
        shape := shape } : Manifest).declaredNames ↔
        name ∈ (children.foldl Manifest.absorb (.leaf own codec)).declaredNames := Iff.rfl
    rw [hshape, Manifest.mem_declaredNames_foldl_absorb]
    simp [hdeclares]

end Class

/-! ## The classes beside a type -/

/-- A type is itself a class of the given name that stands beside its user. -/
def Idl.TypeNode.StandsBeside (ctx : ResolveContext) (name : String) : TypeNode → Prop
  | .struct _ => ctx.declares = true ∧ name = ctx.typeName "AnonymousStruct"
  | .enum _ _ => ctx.declares = true ∧ name = ctx.typeName "AnonymousEnum"
  | _ => False

theorem Idl.TypeNode.not_standsBeside {node : TypeNode} (hclass : node.isClass = false)
    (ctx : ResolveContext) (name : String) : ¬ node.StandsBeside ctx name := by
  cases node <;> first | exact id | cases hclass

/-- A type with a size is no class. -/
theorem Idl.TypeNode.isClass_eq_false_of_sized? {node inner : TypeNode}
    (hsized : node.sized? = some inner) : node.isClass = false := by
  cases node <;> first | rfl | cases hsized

/-- A class of the given name stands beside a type. -/
inductive Declares : TypeNode → ResolveContext → String → Prop
  | own {node : TypeNode} {ctx : ResolveContext} {name : String} (h : node.StandsBeside ctx name) :
    Declares node ctx name
  | inside {node : TypeNode} {ctx : ResolveContext} {part : Placed} {name : String}
      (hpart : part ∈ node.placed ctx) (h : Declares part.1 part.2 name) : Declares node ctx name

theorem declares_iff {node : TypeNode} {ctx : ResolveContext} {name : String} :
    Declares node ctx name ↔
      node.StandsBeside ctx name ∨ ∃ part ∈ node.placed ctx, Declares part.1 part.2 name := by
  constructor
  · rintro (h | ⟨hpart, h⟩)
    · exact .inl h
    · exact .inr ⟨_, hpart, h⟩
  · rintro (h | ⟨part, hpart, h⟩)
    · exact .own h
    · exact .inside hpart h

/-- Two lists that answer to each other have answering members alike. -/
theorem exists_mem_iff_of_zip {α β : Type} {l : List α} {l' : List β} {P : α → Prop}
    {Q : β → Prop} (hlength : l.length = l'.length)
    (h : ∀ pair ∈ l.zip l', (Q pair.2 ↔ P pair.1)) : (∃ b ∈ l', Q b) ↔ ∃ a ∈ l, P a := by
  induction l generalizing l' with
  | nil => simp [List.length_eq_zero_iff.mp hlength.symm]
  | cons a l ih =>
    cases l' with
    | nil => cases hlength
    | cons b l' =>
      rw [List.zip_cons_cons, List.forall_mem_cons] at h
      rw [List.exists_mem_cons_iff, List.exists_mem_cons_iff, h.1,
        ih (Nat.succ.inj hlength) h.2]

namespace Resolver

variable {resolver : Resolver} {node : TypeNode} {ctx : ResolveContext} {manifest child : Manifest}
  {children : List Manifest} {module symbol name : String}

/-- A leaf has no classes beside it. -/
theorem declaredNames_of_isLeaf (h : IsLeaf manifest) : manifest.declaredNames = [] := by
  cases h <;> rfl

theorem mem_declaredNames_of_composes (h : resolver.Composes ctx node children manifest) :
    name ∈ manifest.declaredNames ↔
      node.StandsBeside ctx name ∨ ∃ child ∈ children, name ∈ child.declaredNames := by
  cases h with
  | leaf hclass hlink hleaf =>
    simp [declaredNames_of_isLeaf hleaf, TypeNode.not_standsBeside hclass]
  | around targetType hplaced hclass hsized hcodec =>
    simp [TypeNode.not_standsBeside hclass]
  | @sized _ _ inner codec hplaced hsized hcodec =>
    have hkept : (wrapKeepingShape inner codec).declaredNames = inner.declaredNames := rfl
    simp [TypeNode.not_standsBeside (TypeNode.isClass_eq_false_of_sized? hsized), hkept]
  | map key value count targetType length => simp [TypeNode.StandsBeside]
  | tuple items =>
    rw [tupleOf, Manifest.declaredNames_wrap, Manifest.mem_declaredNames_foldl_absorb]
    simp [TypeNode.StandsBeside]
  | structLink htarget hshape => simp [TypeNode.StandsBeside]
  | enumLink htarget hshape => simp [TypeNode.StandsBeside]
  | struct fields => exact mem_declaredNames_classManifest
  | enum format hparts => exact mem_declaredNames_classManifest

/-- **The classes beside a type are told by the type.** -/
theorem mem_declaredNames_of_builds (h : resolver.Builds node ctx manifest) :
    name ∈ manifest.declaredNames ↔ Declares node ctx name := by
  induction h with
  | @compose node ctx children _ hcomposes hlength _ ih =>
    have hparts : (∃ child ∈ children, name ∈ child.declaredNames) ↔
        ∃ part ∈ node.placed ctx, Declares part.1 part.2 name := exists_mem_iff_of_zip hlength ih
    rw [mem_declaredNames_of_composes hcomposes, declares_iff, hparts]
  | synonym htarget hshape hinner ih =>
    -- The classes beside the type of an alias are left in its file.
    rw [declares_iff]
    simp [aliasManifest, TypeNode.StandsBeside, TypeNode.placed, Manifest.declaredNames,
      Manifest.withImport, Manifest.wrap]

end Resolver

/-! ## Depth does not matter -/

/-- The same context at another depth. -/
def ResolveContext.atDepth (ctx : ResolveContext) (depth : Nat) : ResolveContext :=
  { ctx with depth := depth }

theorem exists_mem_placedItems_atDepth {ctx : ResolveContext} (depth : Nat) {items : List TypeNode}
    {part : Placed} : ∀ {position : Nat}, part ∈ placedItems ctx position items →
      (part.1, part.2.atDepth (depth + 1)) ∈ placedItems (ctx.atDepth depth) position items := by
  induction items with
  | nil =>
    intro position h
    cases h
  | cons item items ih =>
    intro position h
    rcases List.mem_cons.mp h with rfl | h
    · exact List.mem_cons_self
    · exact List.mem_cons_of_mem _ (ih h)

theorem exists_mem_placed_atDepth {node : TypeNode} {ctx : ResolveContext} {part : Placed}
    (depth : Nat) (h : part ∈ node.placed ctx) :
    ∃ depth', (part.1, part.2.atDepth depth') ∈ node.placed (ctx.atDepth depth) := by
  cases node
  case struct fields =>
    obtain ⟨field, hfield, rfl⟩ := List.mem_map.mp h
    exact ⟨depth + 1, List.mem_map.mpr ⟨field, hfield, rfl⟩⟩
  case tuple items =>
    obtain ⟨item, hitem, rfl⟩ := List.mem_map.mp h
    exact ⟨depth + 1, List.mem_map.mpr ⟨item, hitem, rfl⟩⟩
  case enum variants size =>
    obtain ⟨variant, hvariant, h⟩ := List.mem_flatMap.mp h
    cases variant with
    | empty name => cases h
    | tuple name items =>
      exact ⟨depth + 2, List.mem_flatMap.mpr
        ⟨_, hvariant, exists_mem_placedItems_atDepth (depth + 1) h⟩⟩
    | struct name fields =>
      obtain rfl := List.mem_singleton.mp h
      exact ⟨depth + 1, List.mem_flatMap.mpr ⟨_, hvariant, List.mem_singleton.mpr rfl⟩⟩
  case map key value count =>
    refine ⟨depth + 1, ?_⟩
    simp only [TypeNode.placed, List.mem_cons, List.not_mem_nil, or_false] at h ⊢
    rcases h with rfl | rfl
    · exact .inl rfl
    · exact .inr rfl
  case option item flag isFixed | set item count =>
    obtain rfl := List.mem_singleton.mp h
    exact ⟨depth + 1, List.mem_singleton.mpr rfl⟩
  case array item count =>
    -- Whether a list is resolved any further does not depend on the context either.
    refine ⟨depth + 1, ?_⟩
    simp only [TypeNode.placed] at h ⊢
    split at h
    · cases h
    · obtain rfl := List.mem_singleton.mp h
      exact List.mem_singleton.mpr rfl
  case fixedSize inner size | sizePrefix inner width =>
    refine ⟨depth + 1, ?_⟩
    simp only [TypeNode.placed] at h ⊢
    split at h
    case h_1 | h_2 => cases h
    case h_3 =>
      obtain rfl := List.mem_singleton.mp h
      exact List.mem_singleton.mpr rfl
  all_goals cases h

theorem Declares.atDepth {node : TypeNode} {ctx : ResolveContext} {name : String}
    (h : Declares node ctx name) : ∀ depth, Declares node (ctx.atDepth depth) name := by
  induction h with
  | own h =>
    intro depth
    refine .own ?_
    cases ‹TypeNode› <;> exact h
  | inside hpart _ ih =>
    intro depth
    obtain ⟨depth', hpart'⟩ := exists_mem_placed_atDepth depth hpart
    exact .inside hpart' (ih depth')

/-- The type of an alias declares the same classes wherever the alias is used. -/
theorem declares_aliasContext_iff {node : TypeNode} {link name : String} {depth depth' : Nat} :
    Declares node (aliasContext link depth) name ↔ Declares node (aliasContext link depth') name :=
  ⟨fun h => h.atDepth depth', fun h => h.atDepth depth⟩

/-! ## Imports -/

/-- The symbols that a link shows of its target: those of a class, the class of an enum with the
layouts of its variants, or the alias with the classes beside its type. -/
def Shows (link : String) (defined : DefinedType) (symbol : String) : Prop :=
  match DefinedShape.ofType defined.type with
  | .struct => symbol ∈ classSymbols (className link)
  | .enum variants => symbol = className link ∨ symbol ∈ variants.map layoutSymbol
  | .synonym => symbol = className link ∨
      ∃ name, Declares defined.type (aliasContext link 0) name ∧ symbol ∈ classSymbols name

namespace Resolver

variable {resolver : Resolver} {node : TypeNode} {ctx : ResolveContext} {manifest child : Manifest}
  {children : List Manifest} {module symbol : String}

/-- A type draws a symbol from the file of another type: a link on the way through it shows it. -/
inductive Draws (resolver : Resolver) (node : TypeNode) : String → String → Prop
  | link {link symbol : String} {program : Option String} {defined : DefinedType}
      (hmeets : resolver.Meets node link program)
      (htarget : resolver.target link program = some defined) (hshows : Shows link defined symbol) :
      Draws resolver node (generatedModule "types" (fileStem link)) symbol

/-- What a leaf imports: a typed list, or the class of addresses. -/
inductive LeafImport : String → String → Prop
  | typedList {format : NumberFormat} {list : String} (hlist : typedList? format = some list) :
    LeafImport typedDataModule list
  | address : LeafImport solanaModule "Ed25519HDPublicKey"

theorem Draws.of_mem_placed {part : Placed} (hpart : part ∈ node.placed ctx)
    (h : resolver.Draws part.1 module symbol) : resolver.Draws node module symbol := by
  obtain ⟨hmeets, htarget, hshows⟩ := h
  exact .link (meets_of_mem_placed hpart hmeets) htarget hshows

theorem exists_placed_of_draws (hlink : ∀ name program, node ≠ .link name program)
    (h : resolver.Draws node module symbol) (ctx : ResolveContext) :
    ∃ part ∈ node.placed ctx, resolver.Draws part.1 module symbol := by
  obtain ⟨hmeets, htarget, hshows⟩ := h
  obtain ⟨part, hpart, hmeets⟩ := exists_placed_of_meets hlink hmeets ctx
  exact ⟨part, hpart, .link hmeets htarget hshows⟩

/-- What a link draws: what it shows of its target, and behind an alias what the type of the alias
draws. -/
theorem draws_link_iff {link : String} {program : Option String} {defined : DefinedType}
    (htarget : resolver.target link program = some defined) :
    resolver.Draws (.link link program) module symbol ↔
      (module = generatedModule "types" (fileStem link) ∧ Shows link defined symbol) ∨
        (DefinedShape.ofType defined.type = .synonym ∧
          resolver.Draws defined.type module symbol) := by
  constructor
  · rintro ⟨hmeets, hfound, hshows⟩
    cases hmeets with
    | link =>
      obtain rfl := Option.some.inj (hfound.symm.trans htarget)
      exact .inl ⟨rfl, hshows⟩
    | part hpart => cases hpart
    | synonym halias hshape hmeets =>
      obtain rfl := Option.some.inj (halias.symm.trans htarget)
      exact .inr ⟨hshape, .link hmeets hfound hshows⟩
  · rintro (⟨rfl, hshows⟩ | ⟨hshape, hmeets, hfound, hshows⟩)
    · exact .link (.link link program) htarget hshows
    · exact .link (.synonym htarget hshape hmeets) hfound hshows

/-- What is needed inside a type is needed by the type. -/
theorem contains_of_child (h : resolver.Composes ctx node children manifest)
    (hmem : child ∈ children) (hchild : child.imports.contains module symbol = true) :
    manifest.imports.contains module symbol = true := by
  cases h with
  | leaf | structLink | enumLink => cases hmem
  | around | sized =>
    obtain rfl := List.mem_singleton.mp hmem
    exact hchild
  | map key value count targetType length =>
    rw [Manifest.imports_wrap, Manifest.imports_absorb, ImportMap.contains_merge]
    simp only [List.mem_cons, List.not_mem_nil, or_false] at hmem
    rcases hmem with rfl | rfl
    · exact .inl hchild
    · exact .inr hchild
  | tuple items =>
    rw [tupleOf, Manifest.imports_wrap, Manifest.contains_foldl_absorb]
    exact .inr ⟨child, hmem, hchild⟩
  | struct fields => exact contains_classManifest.mpr ⟨child, hmem, hchild⟩
  | enum format hparts => exact contains_classManifest.mpr ⟨child, hmem, hchild⟩

/-- A leaf with an import has no other. -/
theorem contains_withImport_leaf {targetType key : String} {codec : Codec} {symbols : List String} :
    ((Manifest.leaf targetType codec).withImport key symbols).imports.contains module symbol =
      true ↔ key = module ∧ symbol ∈ symbols := by
  simp [Manifest.withImport]

theorem leafImport_of_isLeaf (h : IsLeaf manifest)
    (hcontains : manifest.imports.contains module symbol = true) : LeafImport module symbol := by
  cases h with
  | number | boolean | string | unknown => cases ImportMap.contains_empty ▸ hcontains
  | bytes =>
    obtain ⟨rfl, hsymbol⟩ := contains_withImport_leaf.mp hcontains
    obtain rfl := List.mem_singleton.mp hsymbol
    exact @LeafImport.typedList .u8 _ rfl
  | typedList hlist =>
    obtain ⟨rfl, hsymbol⟩ := contains_withImport_leaf.mp hcontains
    obtain rfl := List.mem_singleton.mp hsymbol
    exact .typedList hlist
  | publicKey =>
    obtain ⟨rfl, hsymbol⟩ := contains_withImport_leaf.mp hcontains
    obtain rfl := List.mem_singleton.mp hsymbol
    exact .address

/-- A link to a class imports what it shows. -/
theorem contains_link_iff {link : String} {program : Option String} {defined : DefinedType}
    (h : resolver.Composes ctx (.link link program) children manifest)
    (htarget : resolver.target link program = some defined) :
    manifest.imports.contains module symbol = true ↔
      generatedModule "types" (fileStem link) = module ∧ Shows link defined symbol := by
  cases h with
  | leaf _ hlink => exact absurd rfl (hlink link program)
  | around _ hplaced => cases hplaced
  | sized _ hsized => cases hsized
  | structLink hfound hshape | enumLink hfound hshape =>
    obtain rfl := Option.some.inj (hfound.symm.trans htarget)
    rw [contains_withImport_leaf, Shows, hshape]
    simp [classSymbols]

/-- A manifest imports what its own type needs, and what is needed inside. -/
theorem source_of_composes (h : resolver.Composes ctx node children manifest)
    (hcontains : manifest.imports.contains module symbol = true) :
    (∃ child ∈ children, child.imports.contains module symbol = true) ∨
      LeafImport module symbol ∨ resolver.Draws node module symbol := by
  cases hcomposes : h with
  | leaf hclass hlink hleaf => exact .inr (.inl (leafImport_of_isLeaf hleaf hcontains))
  | structLink htarget | enumLink htarget =>
    obtain ⟨rfl, hshows⟩ := (contains_link_iff h htarget).mp hcontains
    exact .inr (.inr (.link (.link _ _) htarget hshows))
  | around | sized => exact .inl ⟨_, List.mem_cons_self, hcontains⟩
  | map key value count targetType length =>
    rw [Manifest.imports_wrap, Manifest.imports_absorb, ImportMap.contains_merge] at hcontains
    rcases hcontains with h | h
    · exact .inl ⟨_, List.mem_cons_self, h⟩
    · exact .inl ⟨_, List.mem_cons_of_mem _ List.mem_cons_self, h⟩
  | tuple items =>
    rw [tupleOf, Manifest.imports_wrap, Manifest.contains_foldl_absorb] at hcontains
    exact .inl (by simpa using hcontains)
  | struct fields => exact .inl (contains_classManifest.mp hcontains)
  | enum format hparts => exact .inl (contains_classManifest.mp hcontains)

/-- An alias imports what the type that it stands for imports, and what its link shows. -/
theorem contains_aliasManifest {link : String} {defined : DefinedType} {inner : Manifest}
    {depth : Nat} (hshape : DefinedShape.ofType defined.type = .synonym)
    (hinner : resolver.Builds defined.type (aliasContext link depth) inner) :
    (aliasManifest (className link) (generatedModule "types" (fileStem link))
        inner).imports.contains module symbol = true ↔
      inner.imports.contains module symbol = true ∨
        (generatedModule "types" (fileStem link) = module ∧ Shows link defined symbol) := by
  have hdeclared (name : String) : (∃ declaration ∈ inner.declarations, declaration.name = name) ↔
      Declares defined.type (aliasContext link 0) name :=
    List.mem_map.symm.trans ((mem_declaredNames_of_builds hinner).trans declares_aliasContext_iff)
  simp only [aliasManifest, Manifest.withImport, ImportMap.contains_add, Manifest.wrap, Shows,
    hshape, List.mem_cons, List.mem_flatMap]
  refine or_congr_right (and_congr_right fun _ => or_congr_right ?_)
  -- Besides itself the alias shows the classes beside its type.
  constructor
  · rintro ⟨declaration, hmem, hsymbol⟩
    exact ⟨_, (hdeclared _).mp ⟨declaration, hmem, rfl⟩, by simpa [classSymbols, or_comm] using
      hsymbol⟩
  · rintro ⟨name, hname, hsymbol⟩
    obtain ⟨declaration, hmem, rfl⟩ := (hdeclared name).mpr hname
    exact ⟨declaration, hmem, by simpa [classSymbols, or_comm] using hsymbol⟩

/-- **Whatever a manifest imports is needed by a leaf or drawn by a link.** -/
theorem source_of_builds (h : resolver.Builds node ctx manifest) :
    manifest.imports.contains module symbol = true →
      LeafImport module symbol ∨ resolver.Draws node module symbol := by
  induction h with
  | compose hcomposes hlength _ ih =>
    intro hcontains
    rcases source_of_composes hcomposes hcontains with ⟨child, hchild, hcontains⟩ | hsource
    · obtain ⟨part, hpart⟩ := exists_mem_zip_of_mem_right hlength hchild
      exact (ih _ hpart hcontains).imp_right (.of_mem_placed (List.of_mem_zip hpart).1)
    · exact hsource
  | synonym htarget hshape hinner ih =>
    intro hcontains
    rcases (contains_aliasManifest hshape hinner).mp hcontains with hcontains | ⟨rfl, hshows⟩
    · exact (ih hcontains).imp_right fun hdraws =>
        (draws_link_iff htarget).mpr (.inr ⟨hshape, hdraws⟩)
    · exact .inr ((draws_link_iff htarget).mpr (.inl ⟨rfl, hshows⟩))

/-- **A manifest imports whatever a link draws.** -/
theorem contains_of_draws (h : resolver.Builds node ctx manifest) :
    resolver.Draws node module symbol → manifest.imports.contains module symbol = true := by
  -- A link to a class shows its own symbols; all others come from the types inside.
  induction h with
  | @compose node ctx children manifest hcomposes hlength _ ih =>
    intro hdraws
    by_cases hlink : ∃ name program, node = .link name program
    · obtain ⟨name, program, rfl⟩ := hlink
      have htarget : ∃ defined, resolver.target name program = some defined ∧
          DefinedShape.ofType defined.type ≠ .synonym := by
        cases hcomposes with
        | leaf _ hlink => exact absurd rfl (hlink name program)
        | around _ hplaced => cases hplaced
        | sized _ hsized => cases hsized
        | structLink htarget hshape | enumLink htarget hshape =>
          exact ⟨_, htarget, by simp [hshape]⟩
      obtain ⟨defined, htarget, hclass⟩ := htarget
      obtain ⟨rfl, hshows⟩ := ((draws_link_iff htarget).mp hdraws).resolve_right
        fun ⟨hshape, _⟩ => hclass hshape
      exact (contains_link_iff hcomposes htarget).mpr ⟨rfl, hshows⟩
    · have hlink : ∀ name program, node ≠ .link name program :=
        fun name program h => hlink ⟨name, program, h⟩
      obtain ⟨part, hpart, hdraws⟩ := exists_placed_of_draws hlink hdraws ctx
      obtain ⟨child, hpair⟩ := exists_mem_zip hlength hpart
      exact contains_of_child hcomposes (List.of_mem_zip hpair).2 (ih _ hpair hdraws)
  | synonym htarget hshape hinner ih =>
    intro hdraws
    refine (contains_aliasManifest hshape hinner).mpr ?_
    rcases (draws_link_iff htarget).mp hdraws with ⟨rfl, hshows⟩ | ⟨-, hdraws⟩
    · exact .inr ⟨rfl, hshows⟩
    · exact .inl (ih hdraws)

theorem exists_whole_of_composes (h : resolver.Composes ctx node children manifest)
    (hwhole : manifest.imports.Whole module) : ∃ child ∈ children, child.imports.Whole module := by
  cases h with
  | leaf hclass hlink hleaf =>
    cases hleaf <;>
      simp [bytesManifest, typedListManifest, unknownManifest, Manifest.withImport] at hwhole
  | structLink | enumLink => simp [Manifest.withImport] at hwhole
  | around | sized => exact ⟨_, List.mem_cons_self, hwhole⟩
  | map key value count targetType length =>
    rw [Manifest.imports_wrap, Manifest.imports_absorb, ImportMap.whole_merge] at hwhole
    rcases hwhole with h | h
    · exact ⟨_, List.mem_cons_self, h⟩
    · exact ⟨_, List.mem_cons_of_mem _ List.mem_cons_self, h⟩
  | tuple items =>
    rw [tupleOf, Manifest.imports_wrap, Manifest.whole_foldl_absorb] at hwhole
    simpa using hwhole
  | struct fields => exact whole_classManifest.mp hwhole
  | enum format hparts => exact whole_classManifest.mp hwhole

/-- No manifest imports a whole file. -/
theorem not_whole_of_builds (h : resolver.Builds node ctx manifest) :
    ¬ manifest.imports.Whole module := by
  induction h with
  | compose hcomposes hlength _ ih =>
    intro hwhole
    obtain ⟨child, hchild, hwhole⟩ := exists_whole_of_composes hcomposes hwhole
    obtain ⟨part, hpart⟩ := exists_mem_zip_of_mem_right hlength hchild
    exact ih _ hpart hwhole
  | synonym htarget hshape hinner ih =>
    intro hwhole
    simp only [aliasManifest, Manifest.withImport, ImportMap.whole_add] at hwhole
    exact ih hwhole

end Resolver

end DartClient
