import DartClient.Proofs.Codec.Mentions
import DartClient.Proofs.Manifest.Needs

/-!
# The symbols of an expression are in scope

The expression that names the layout of a type mentions the classes that the type refers to. Where
generated code uses the expression, each of them has to be imported, or declared beside the type, or
brought by the class that the type itself is.

A class that a link leads to is imported. A class in place is brought by the type itself, but only
if nothing but sizes stands around it: an option, list, set, map or tuple around a class in place,
and an alias for one that is not the class itself, mention it while no file declares it under this
name.

## Main definitions

* `Idl.TypeNode.core`: a type below the sizes around it.
* `Resolver.Bears`: a class in place, reached through types around it and through aliases, brings a
  symbol.
* `Manifest.InScope`: a symbol is imported, declared or brought by the type itself.

## Main results

* `Resolver.bears_or_imports_of_mentions`: a symbol is borne by a class in place or imported.
* `Resolver.induction_sizes`: induction along the sizes around a class.
* `Resolver.mentions_in_scope`: what an expression mentions is in scope, but for the classes in
  place inside of other types.
-/

namespace DartClient

open Idl (TypeNode StructField EnumVariant NumberType NumberFormat Count DefinedType)

/-! ## Classes in place -/

/-- A type below the sizes around it. -/
def Idl.TypeNode.core : TypeNode → TypeNode
  | .fixedSize inner _ | .sizePrefix inner _ => inner.core
  | node => node

/-- A type is itself a class that brings a symbol: a struct its layout, an enum its class and the
layouts of its variants. -/
def Idl.TypeNode.BringsItself (ctx : ResolveContext) (symbol : String) : TypeNode → Prop
  | .struct _ => symbol = layoutSymbol (ctx.typeName "AnonymousStruct")
  | .enum variants _ => symbol = ctx.typeName "AnonymousEnum" ∨
      ∃ variant ∈ variants, symbol = layoutSymbol (className variant.name)
  | _ => False

namespace Resolver

/-- A class in place brings a symbol. It is reached from a type through the types around it, none
of which is a class, and through links to aliases. -/
inductive Bears (resolver : Resolver) : TypeNode → ResolveContext → String → Prop
  | own {node : TypeNode} {ctx : ResolveContext} {symbol : String}
      (h : node.BringsItself ctx symbol) : Bears resolver node ctx symbol
  | inside {node : TypeNode} {ctx : ResolveContext} {part : Placed} {symbol : String}
      (hclass : node.isClass = false) (hpart : part ∈ node.placed ctx)
      (h : Bears resolver part.1 part.2 symbol) : Bears resolver node ctx symbol
  | synonym {link : String} {program : Option String} {defined : DefinedType}
      {ctx : ResolveContext} {symbol : String}
      (htarget : resolver.target link program = some defined)
      (hshape : DefinedShape.ofType defined.type = .synonym)
      (h : Bears resolver defined.type (aliasContext link (ctx.depth + 1)) symbol) :
      Bears resolver (.link link program) ctx symbol

end Resolver

/-! ## What is mentioned -/

namespace Resolver

variable {resolver : Resolver} {node : TypeNode} {ctx : ResolveContext} {manifest child : Manifest}
  {children : List Manifest} {symbol : String}

theorem mentions_structClass (fields : List StructField) :
    (structClass ctx fields children).codec.mentions =
      [layoutSymbol (ctx.typeName "AnonymousStruct")] := by
  rw [structClass, codec_classManifest, Codec.mentions_struct]

theorem mentions_enumClass {variants : List EnumVariant} (format : NumberFormat)
    {parts : List (List Manifest)} (hlength : variants.length = parts.length) :
    (enumClass ctx variants format parts).codec.mentions = ctx.typeName "AnonymousEnum" ::
      variants.map fun variant => layoutSymbol (className variant.name) := by
  have hnames := congrArg (List.map layoutSymbol) (map_name_ofVariants 0 hlength)
  rw [List.map_map, List.map_map] at hnames
  rw [enumClass, codec_classManifest, Codec.mentions_enum, List.map_map]
  exact congrArg _ hnames

theorem mentions_of_isLeaf (h : IsLeaf manifest) : manifest.codec.mentions = [] := by
  cases h with
  | boolean format => cases format <;> rfl
  | number | publicKey | unknown | typedList => rfl
  | string length => exact symbols_lengthWords "String" length []
  | bytes length => exact symbols_lengthWords "Bytes" length []

/-- A type that is a class mentions what it brings itself. -/
theorem mentions_of_class (h : resolver.Composes ctx node children manifest)
    (hclass : node.isClass = true) :
    symbol ∈ manifest.codec.mentions ↔ node.BringsItself ctx symbol := by
  cases h with
  | leaf hfree | around _ _ hfree => exact absurd hclass (by simp [hfree])
  | sized _ hsized =>
    exact absurd hclass (by simp [TypeNode.isClass_eq_false_of_sized? hsized])
  | map | tuple | structLink | enumLink => cases hclass
  | struct fields => rw [mentions_structClass, List.mem_singleton, TypeNode.BringsItself]
  | enum format hparts =>
    rw [mentions_enumClass format hparts.length_eq, List.mem_cons, List.mem_map,
      TypeNode.BringsItself]
    simp only [eq_comm]

/-- A type that is no class mentions what the types inside it mention, and what a link shows. -/
theorem mentions_of_composes (h : resolver.Composes ctx node children manifest)
    (hclass : node.isClass = false) (hsymbol : symbol ∈ manifest.codec.mentions) :
    (∃ child ∈ children, symbol ∈ child.codec.mentions) ∨
      ∃ module, manifest.imports.contains module symbol = true := by
  -- Only a link mentions a symbol that no type inside of it mentions.
  cases h with
  | leaf _ _ hleaf =>
    rw [mentions_of_isLeaf hleaf] at hsymbol
    cases hsymbol
  | around _ _ _ _ hcodec =>
    rw [Manifest.wrap, Codec.mentions_of_element? hcodec] at hsymbol
    exact .inl ⟨_, List.mem_cons_self, hsymbol⟩
  | sized _ _ hcodec =>
    rw [wrapKeepingShape, Manifest.wrap, Codec.mentions_of_element? hcodec] at hsymbol
    exact .inl ⟨_, List.mem_cons_self, hsymbol⟩
  | map =>
    rw [Manifest.wrap, Codec.mentions_map, List.mem_append] at hsymbol
    rcases hsymbol with h | h
    · exact .inl ⟨_, List.mem_cons_self, h⟩
    · exact .inl ⟨_, List.mem_cons_of_mem _ List.mem_cons_self, h⟩
  | tuple items =>
    rw [tupleOf, Manifest.wrap, Codec.mentions_tuple, List.flatMap_map] at hsymbol
    exact .inl (List.mem_flatMap.mp hsymbol)
  | @structLink link program =>
    rw [Manifest.withImport, Manifest.leaf, Codec.mentions_defined_struct] at hsymbol
    refine .inr ⟨generatedModule "types" (fileStem link), ?_⟩
    rw [Manifest.withImport, ImportMap.contains_add]
    exact .inr ⟨rfl, List.mem_cons_of_mem _ hsymbol⟩
  | @enumLink link program _ variants =>
    rw [Manifest.withImport, Manifest.leaf, Codec.mentions_defined_enum] at hsymbol
    refine .inr ⟨generatedModule "types" (fileStem link), ?_⟩
    rw [Manifest.withImport, ImportMap.contains_add]
    exact .inr ⟨rfl, hsymbol⟩
  | struct | enum => cases hclass

theorem mentions_of_child (h : resolver.Composes ctx node children manifest)
    (hclass : node.isClass = false) (hmem : child ∈ children)
    (hsymbol : symbol ∈ child.codec.mentions) : symbol ∈ manifest.codec.mentions := by
  cases h with
  | leaf | structLink | enumLink => cases hmem
  | around _ _ _ _ hcodec =>
    obtain rfl := List.mem_singleton.mp hmem
    rwa [Manifest.wrap, Codec.mentions_of_element? hcodec]
  | sized _ _ hcodec =>
    obtain rfl := List.mem_singleton.mp hmem
    rwa [wrapKeepingShape, Manifest.wrap, Codec.mentions_of_element? hcodec]
  | map =>
    rw [Manifest.wrap, Codec.mentions_map, List.mem_append]
    rcases List.mem_pair.mp hmem with rfl | rfl
    · exact .inl hsymbol
    · exact .inr hsymbol
  | tuple items =>
    rw [tupleOf, Manifest.wrap, Codec.mentions_tuple, List.flatMap_map]
    exact List.mem_flatMap.mpr ⟨child, hmem, hsymbol⟩
  | struct | enum => cases hclass

/-- **Every symbol is borne by a class in place or imported.** -/
theorem bears_or_imports_of_mentions (h : resolver.Builds node ctx manifest) :
    symbol ∈ manifest.codec.mentions → resolver.Bears node ctx symbol ∨
      ∃ module, manifest.imports.contains module symbol = true := by
  -- By induction on how the manifest is built: a symbol comes up from a child until a class is met.
  induction h with
  | @compose node ctx children manifest hcomposes hlength _ ih =>
    intro hsymbol
    cases hclass : node.isClass with
    | true => exact .inl (.own ((mentions_of_class hcomposes hclass).mp hsymbol))
    | false =>
      rcases mentions_of_composes hcomposes hclass hsymbol with ⟨child, hchild, hsymbol⟩ | himports
      · obtain ⟨part, hpart⟩ := exists_mem_zip_of_mem_right hlength hchild
        rcases ih _ hpart hsymbol with hbears | ⟨module, hcontains⟩
        · exact .inl (.inside hclass (List.of_mem_zip hpart).1 hbears)
        · exact .inr ⟨module, contains_of_child hcomposes hchild hcontains⟩
      · exact .inr himports
  | synonym htarget hshape _ ih =>
    intro hsymbol
    rcases ih hsymbol with hbears | ⟨module, hcontains⟩
    · exact .inl (.synonym htarget hshape hbears)
    · refine .inr ⟨module, ?_⟩
      simp only [aliasManifest, Manifest.withImport, ImportMap.contains_add]
      exact .inl hcontains

/-- A link whose manifest is put together leads to a class. -/
theorem ne_synonym_of_composes {link : String} {program : Option String} {defined : DefinedType}
    (h : resolver.Composes ctx (.link link program) children manifest)
    (htarget : resolver.target link program = some defined) :
    DefinedShape.ofType defined.type ≠ .synonym := by
  cases h with
  | leaf _ hlink => exact absurd rfl (hlink link program)
  | around _ hplaced => cases hplaced
  | sized _ hsized => cases hsized
  | structLink htarget' hshape | enumLink htarget' hshape =>
    obtain rfl := Option.some.inj (htarget.symm.trans htarget')
    rw [hshape]
    exact nofun

/-- What a class in place brings is mentioned by the types around it. -/
theorem mentions_of_bears (h : resolver.Builds node ctx manifest)
    (hbears : resolver.Bears node ctx symbol) : symbol ∈ manifest.codec.mentions := by
  induction h with
  | @compose node ctx children manifest hcomposes hlength _ ih =>
    cases hbears with
    | own hown =>
      have hclass : node.isClass = true := by cases node <;> first | rfl | exact hown.elim
      exact (mentions_of_class hcomposes hclass).mpr hown
    | inside hclass hpart hbears =>
      obtain ⟨child, hzip⟩ := exists_mem_zip hlength hpart
      exact mentions_of_child hcomposes hclass (List.of_mem_zip hzip).2 (ih _ hzip hbears)
    | synonym htarget hshape _ => exact absurd hshape (ne_synonym_of_composes hcomposes htarget)
  | @synonym link program _ _ _ htarget hshape _ ih =>
    cases hbears with
    | own hown => exact hown.elim
    | inside _ hpart => cases hpart
    | synonym htarget' hshape' hbears =>
      obtain rfl := Option.some.inj (htarget.symm.trans htarget')
      exact ih hbears

end Resolver

/-! ## The class that a type is itself -/

/-- A type is itself a class. -/
def Shape.isClass : Shape → Bool
  | .plain => false
  | .struct _ | .enum _ _ => true

theorem Idl.TypeNode.core_eq_self {node : TypeNode} (hsized : node.sized? = none) :
    node.core = node := by
  cases node <;> first | rfl | cases hsized

theorem Idl.TypeNode.core_of_isClass {node : TypeNode} (hclass : node.isClass = true) :
    node.core = node := by
  cases node <;> first | rfl | cases hclass

theorem Idl.TypeNode.core_of_sized? {node inner : TypeNode} (hsized : node.sized? = some inner) :
    node.core = inner.core := by
  cases node <;> cases hsized <;> rfl

namespace Resolver

variable {resolver : Resolver} {node : TypeNode} {ctx : ResolveContext} {manifest : Manifest}
  {children : List Manifest} {symbol parent : String}

/-- A type that is no class below its sizes is none with them. -/
theorem shape_eq_plain_of_builds (h : resolver.Builds node ctx manifest) :
    node.core.isClass = false → manifest.shape = .plain := by
  induction h with
  | compose hcomposes hlength _ ih =>
    intro hcore
    cases hcomposes with
    | leaf _ _ hleaf => exact hleaf.shape_eq
    | around | map | tuple | structLink | enumLink => rfl
    | sized hplaced hsized =>
      rw [TypeNode.core_of_sized? hsized] at hcore
      rw [hplaced] at ih
      exact ih _ List.mem_cons_self hcore
    | struct | enum => cases hcore
  | synonym => exact fun _ => rfl

/-- A class below a size is resolved on its own. -/
theorem placed_ne_nil {item : TypeNode} (hsized : node.sized? = some item)
    (hcore : node.core.isClass = true) : node.placed ctx ≠ [] := by
  rw [TypeNode.core_of_sized? hsized] at hcore
  have htext : ∀ encoding, item ≠ .string encoding := by
    rintro encoding rfl
    cases hcore
  have hbytes : item ≠ .bytes := by
    rintro rfl
    cases hcore
  rw [placed_of_sized hsized htext hbytes]
  exact List.cons_ne_nil _ _

/-- **Induction along the sizes around a class**: what holds of a class, and of a size around a type
if it holds of the type, holds of every type that is a class below its sizes. -/
@[elab_as_elim]
theorem induction_sizes {motive : TypeNode → ResolveContext → Manifest → Prop}
    (own : ∀ {node ctx children manifest}, node.isClass = true →
      resolver.Composes ctx node children manifest → resolver.Builds node ctx manifest →
        motive node ctx manifest)
    (sized : ∀ {node item ctx inner codec}, node.sized? = some item →
      codec.element? = some inner.codec → motive item ctx.item inner →
        motive node ctx (wrapKeepingShape inner codec))
    (h : resolver.Builds node ctx manifest) (hcore : node.core.isClass = true) :
    motive node ctx manifest := by
  induction h with
  | @compose node ctx children manifest hcomposes hlength hchildren ih =>
    cases hsized : node.sized? with
    | none =>
      rw [TypeNode.core_eq_self hsized] at hcore
      exact own hcore hcomposes (.compose hcomposes hlength hchildren)
    | some item =>
      cases hcomposes with
      -- Only the size of a text or of bytes is resolved without a child.
      | leaf => exact absurd (List.eq_nil_of_length_eq_zero hlength) (placed_ne_nil hsized hcore)
      | around _ _ _ hfree => rw [hsized] at hfree; cases hfree
      | sized hplaced hsized' hcodec =>
        obtain rfl := Option.some.inj (hsized.symm.trans hsized')
        rw [TypeNode.core_of_sized? hsized] at hcore
        rw [hplaced] at ih
        exact sized hsized hcodec (ih _ List.mem_cons_self hcore)
      | map | tuple | structLink | enumLink | struct | enum => cases hsized
  | synonym => cases hcore

/-- Sizes around a class leave its shape and what it mentions. -/
theorem exists_class_of_builds (h : resolver.Builds node ctx manifest)
    (hcore : node.core.isClass = true) : ∃ depth children cls,
      resolver.Composes (ctx.atDepth depth) node.core children cls ∧ manifest.shape = cls.shape ∧
        manifest.codec.mentions = cls.codec.mentions := by
  refine induction_sizes ?_ ?_ h hcore
  · intro node ctx children manifest hclass hcomposes _
    rw [TypeNode.core_of_isClass hclass]
    exact ⟨ctx.depth, children, manifest, hcomposes, rfl, rfl⟩
  · rintro node item ctx inner codec hsized hcodec ⟨depth, children, cls, hcls, hshape, hmentions⟩
    rw [TypeNode.core_of_sized? hsized]
    refine ⟨depth, children, cls, hcls, hshape, ?_⟩
    rw [wrapKeepingShape, Manifest.wrap, Codec.mentions_of_element? hcodec, hmentions]

/-- A class that does not stand beside its user brings what it mentions. -/
theorem mem_declarationSymbols_of_composes (h : resolver.Composes ctx node children manifest)
    (hclass : node.isClass = true) (hdeclares : ctx.declares = false)
    (hparent : ctx.parentName = some parent) (hsymbol : symbol ∈ manifest.codec.mentions) :
    manifest.shape.isClass = true ∧ symbol ∈ declarationSymbols ⟨parent, manifest.shape⟩ := by
  have htypeName : ∀ fallback, ctx.typeName fallback = parent := fun fallback => by
    rw [ResolveContext.typeName, hparent, Option.getD_some]
  rw [mentions_of_class h hclass] at hsymbol
  cases h with
  | leaf hfree | around _ _ hfree => exact absurd hclass (by simp [hfree])
  | sized _ hsized =>
    exact absurd hclass (by simp [TypeNode.isClass_eq_false_of_sized? hsized])
  | map | tuple | structLink | enumLink => cases hclass
  | struct fields =>
    rw [TypeNode.BringsItself, htypeName] at hsymbol
    rw [shape_structClass hdeclares, hsymbol]
    exact ⟨rfl, List.mem_cons_of_mem _ List.mem_cons_self⟩
  | @enum variants format parts hparts =>
    have hnames := map_name_ofVariants 0 hparts.length_eq
    rw [shape_enumClass hdeclares]
    refine ⟨rfl, ?_⟩
    simp only [declarationSymbols, List.mem_append, List.mem_flatMap]
    rcases hsymbol with hsymbol | ⟨variant, hvariant, hsymbol⟩
    · rw [hsymbol, htypeName]
      exact .inl List.mem_cons_self
    · obtain ⟨cls, hcls, hname⟩ := List.mem_map.mp (hnames ▸ List.mem_map_of_mem hvariant)
      refine .inr ⟨cls, hcls, ?_⟩
      rw [hsymbol, hname]
      exact List.mem_cons_of_mem _ List.mem_cons_self

end Resolver

/-! ## Scope -/

/-- A symbol is imported, declared beside the type, or brought by the class of the given name that
the type itself is. -/
def Manifest.InScope (manifest : Manifest) (parent symbol : String) : Prop :=
  (∃ module, manifest.imports.contains module symbol = true) ∨
    symbol ∈ manifest.declarations.flatMap declarationSymbols ∨
      (manifest.shape.isClass = true ∧ symbol ∈ declarationSymbols ⟨parent, manifest.shape⟩)

namespace Resolver

variable {resolver : Resolver} {node : TypeNode} {manifest : Manifest}

/-- **What the expression of a type mentions is in scope**, but for classes in place that stand
inside of other types. What these bring is mentioned all the same, and the type itself is no class
that could bring it. -/
theorem mentions_in_scope {parent text : String} {naming : FieldNaming}
    (h : resolver.resolve node (.root parent naming) = .ok manifest)
    (htext : manifest.codec.borshType? = some text) :
    text = Word.join manifest.codec.words ∧
    (∀ symbol ∈ Word.symbols manifest.codec.words, manifest.InScope parent symbol ∨
      (node.core.isClass = false ∧ resolver.Bears node (.root parent naming) symbol)) ∧
    (node.core.isClass = false → manifest.shape.isClass = false ∧
      ∀ symbol, resolver.Bears node (.root parent naming) symbol →
        symbol ∈ Word.symbols manifest.codec.words) := by
  have hbuilds := builds_of_resolve h
  refine ⟨Codec.borshType?_eq_some htext, fun symbol hsymbol => ?_, fun hcore => ⟨?_, ?_⟩⟩
  · rcases bears_or_imports_of_mentions hbuilds hsymbol with hbears | himports
    · cases hcore : node.core.isClass with
      | false => exact .inr ⟨rfl, hbears⟩
      | true =>
        obtain ⟨depth, children, cls, hcls, hshape, hmentions⟩ :=
          exists_class_of_builds hbuilds hcore
        have hmentioned : symbol ∈ cls.codec.mentions := by
          rw [← hmentions]
          exact hsymbol
        have hown := mem_declarationSymbols_of_composes hcls hcore rfl rfl hmentioned
        rw [← hshape] at hown
        exact .inl (.inr (.inr hown))
    · exact .inl (.inl himports)
  · rw [shape_eq_plain_of_builds hbuilds hcore]
    rfl
  · exact fun symbol hbears => mentions_of_bears hbuilds hbears

/-- With no links to follow, all classes are in place. -/
def inPlace : Resolver := ⟨.empty, "main"⟩

/-- An enum in sixteen bytes is itself the class whose symbols it mentions. -/
theorem mentions_in_scope_sized : ∃ manifest,
    inPlace.resolve (.fixedSize (.enum [.empty "open", .empty "shut"] ⟨.u8, .little⟩) 16)
      (.root "Door" .type) = .ok manifest ∧
    manifest.codec.borshType? =
      some "BFixedSize(16, BEnum<Door>(\x7bOpen: BOpen(), Shut: BShut()\x7d))" ∧
    ∀ symbol ∈ ["Door", "BOpen", "BShut"], manifest.InScope "Door" symbol := by
  have hresolved : ∃ manifest,
      inPlace.resolve (.fixedSize (.enum [.empty "open", .empty "shut"] ⟨.u8, .little⟩) 16)
        (.root "Door" .type) = .ok manifest ∧
      manifest.codec.borshType? =
        some "BFixedSize(16, BEnum<Door>(\x7bOpen: BOpen(), Shut: BShut()\x7d))" ∧
      Word.symbols manifest.codec.words = ["Door", "BOpen", "BShut"] := ⟨_, rfl, rfl, rfl⟩
  obtain ⟨manifest, h, htext, hsymbols⟩ := hresolved
  refine ⟨manifest, h, htext, fun symbol hsymbol => ?_⟩
  rw [← hsymbols] at hsymbol
  rcases (mentions_in_scope h htext).2.1 symbol hsymbol with hscope | ⟨hcore, -⟩
  · exact hscope
  · cases hcore

/-- An option around a class in place mentions the class, which nothing brings. -/
theorem not_inScope_option : ∃ manifest,
    inPlace.resolve (.optional (.struct [.plain "count" (.littleNumber .u8)]))
      (.root "Vault" .type) = .ok manifest ∧
    manifest.codec.borshType? = some "BOption(BCustom(BVault()))" ∧
    "BVault" ∈ Word.symbols manifest.codec.words ∧ ¬ manifest.InScope "Vault" "BVault" := by
  refine ⟨_, rfl, rfl, List.mem_singleton.mpr rfl, ?_⟩
  rintro (⟨module, himports⟩ | hdeclared | ⟨hclass, -⟩)
  · cases himports
  · cases hdeclared
  · cases hclass

end Resolver

end DartClient
