import DartClient.Proofs.Manifest.Levels

/-!
# The layouts of a type

What layout a type has, without regard to the contexts in which it is resolved, which decide how
its classes are called, and to the depth at which resolving gives up. Everything that the resolver
gives out is a layout in this sense.

## Main definitions

* `Resolver.Lays`: the layouts of a type.

## Main results

* `Resolver.lays_of_resolveLevel`: one level of the resolver gives a layout if the levels below do.
* `Resolver.lays_of_resolve`: the codec of a resolved type is a layout of it.
-/

namespace DartClient

open Idl (TypeNode StructField EnumVariant NumberType NumberFormat Count BytesEncoding DefinedType)

/-! ## Lists side by side -/

section Lists

variable {α β γ : Type} {R S : α → β → Prop}

/-- Lists of one length are related if their members are, place by place. -/
theorem forall₂_of_zip {l : List α} {l' : List β} (hlength : l.length = l'.length)
    (h : ∀ part ∈ l.zip l', R part.1 part.2) : List.Forall₂ R l l' :=
  List.forall₂_iff_zip.mpr ⟨hlength, fun hmem => h _ hmem⟩

/-- Every member of one of two lists of one length stands beside a member of the other. -/
theorem exists_mem_zip {l : List α} {l' : List β} (hlength : l.length = l'.length) {a : α}
    (hmem : a ∈ l) : ∃ b, (a, b) ∈ l.zip l' := by
  rw [← List.map_fst_zip (Nat.le_of_eq hlength)] at hmem
  obtain ⟨pair, hpair, rfl⟩ := List.mem_map.mp hmem
  exact ⟨pair.2, hpair⟩

theorem exists_mem_zip_of_mem_right {l : List α} {l' : List β} (hlength : l.length = l'.length)
    {b : β} (hmem : b ∈ l') : ∃ a, (a, b) ∈ l.zip l' := by
  rw [← List.map_snd_zip (Nat.le_of_eq hlength.symm)] at hmem
  obtain ⟨pair, hpair, rfl⟩ := List.mem_map.mp hmem
  exact ⟨pair.1, hpair⟩

/-- Every member of one of two related lists is related to a member of the other. -/
theorem exists_of_forall₂_of_mem_left {l : List α} {l' : List β} (h : List.Forall₂ R l l') {a : α}
    (hmem : a ∈ l) : ∃ b ∈ l', R a b := by
  obtain ⟨b, hpair⟩ := exists_mem_zip h.length_eq hmem
  exact ⟨b, (List.of_mem_zip hpair).2, (List.forall₂_iff_zip.mp h).2 hpair⟩

theorem exists_of_forall₂_of_mem_right {l : List α} {l' : List β} (h : List.Forall₂ R l l') {b : β}
    (hmem : b ∈ l') : ∃ a ∈ l, R a b := by
  obtain ⟨a, hpair⟩ := exists_mem_zip_of_mem_right h.length_eq hmem
  exact ⟨a, (List.of_mem_zip hpair).1, (List.forall₂_iff_zip.mp h).2 hpair⟩

/-- What two lists have in common with a third, member by member, relates them to each other. -/
theorem forall₂_join {S : α → γ → Prop} {T : β → γ → Prop}
    (hjoin : ∀ a b c, R a b → S a c → T b c) {l : List α} {xs : List β} {ys : List γ}
    (h : List.Forall₂ R l xs) (h' : List.Forall₂ S l ys) : List.Forall₂ T xs ys := by
  induction h generalizing ys with
  | nil =>
    cases h'
    exact .nil
  | cons hhead _ ih =>
    cases h' with
    | cons hhead' htail' => exact .cons (hjoin _ _ _ hhead hhead') (ih htail')

/-- A list that is related to a list with a given member has a member in its place. -/
theorem exists_split_of_forall₂ {before after : List α} {x : α} : ∀ {cs : List β},
    List.Forall₂ R (before ++ x :: after) cs → ∃ front c back, cs = front ++ c :: back ∧
      List.Forall₂ R before front ∧ R x c ∧ List.Forall₂ R after back := by
  induction before with
  | nil =>
    intro cs h
    cases h with
    | cons hhead htail => exact ⟨[], _, _, rfl, .nil, hhead, htail⟩
  | cons head before ih =>
    intro cs h
    cases h with
    | cons hhead htail =>
      obtain ⟨front, c, back, rfl, hfront, hc, hback⟩ := ih htail
      exact ⟨_ :: front, c, back, rfl, .cons hhead hfront, hc, hback⟩

/-- A relation between two lists, after one member has been exchanged. -/
theorem forall₂_exchange (h : ∀ a c, R a c → S a c) {x y : α} (hxy : ∀ c, R x c → S y c)
    {before after : List α} {cs : List β} (hlist : List.Forall₂ R (before ++ x :: after) cs) :
    List.Forall₂ S (before ++ y :: after) cs := by
  obtain ⟨front, c, back, rfl, hfront, hc, hback⟩ := exists_split_of_forall₂ hlist
  exact List.rel_append (hfront.imp h) (.cons (hxy c hc) (hback.imp h))

end Lists

/-! ## Layouts -/

/-- A program that declares nothing but types. -/
def Idl.Program.ofTypes (name : String) (definedTypes : List DefinedType) : Idl.Program where
  name := name
  publicKey := ""
  version := ""
  origin := none
  docs := []
  accounts := []
  instructions := []
  definedTypes := definedTypes
  pdas := []
  errors := []

/-- The types of the parts of a variant, in order. -/
def variantTypes : EnumVariant → List TypeNode
  | .empty _ => []
  | .tuple _ items => items
  | .struct _ fields => fields.map StructField.type

/-- The payload has the parts that the variant declares, under the names that it declares. -/
inductive HasForm : EnumVariant → Payload → Prop
  | empty (name : String) : HasForm (.empty name) .empty
  | tuple (name : String) {items : List TypeNode} {codecs : List Codec}
      (hlength : items.length = codecs.length) : HasForm (.tuple name items) (.tuple codecs)
  | struct (name : String) {fields : List StructField} {codecs : List FieldCodec}
      (hnames : List.Forall₂ (fun field codec => field.name = codec.name) fields codecs) :
      HasForm (.struct name fields) (.struct codecs)

/-- The payload of a variant has as many parts as the variant. -/
theorem length_codecs_of_hasForm {variant : EnumVariant} {payload : Payload}
    (h : HasForm variant payload) : (variantTypes variant).length = payload.codecs.length := by
  cases h with
  | empty => rfl
  | tuple _ hlength => exact hlength
  | struct _ hnames =>
    simp only [variantTypes, Payload.codecs, List.length_map]
    exact hnames.length_eq

namespace Resolver

/-- The layouts of a type. A class may be called in any way; a link to an alias has the layouts of
the type that it stands for. -/
inductive Lays (resolver : Resolver) : TypeNode → Codec → Prop
  | number (format : NumberFormat) : Lays resolver (.number ⟨format, .little⟩) (.number format)
  | amount (format : NumberFormat) : Lays resolver (.amount ⟨format, .little⟩) (.number format)
  | solAmount (format : NumberFormat) :
      Lays resolver (.solAmount ⟨format, .little⟩) (.number format)
  | dateTime (format : NumberFormat) : Lays resolver (.dateTime ⟨format, .little⟩) (.number format)
  | boolean (format : NumberFormat) : Lays resolver (.boolean ⟨format, .little⟩) (.boolean format)
  | string : Lays resolver (.string .utf8) (.string .borsh)
  | bytes : Lays resolver .bytes (.bytes .remainder)
  | publicKey : Lays resolver .publicKey .publicKey
  | array {item : TypeNode} {codec : Codec} {count : Count} {length : Length}
      (hcount : lengthOf? count = some length) (h : Lays resolver item codec) :
      Lays resolver (.array item count) (.list codec length)
  /-- A fixed number of plain numbers is a typed list. -/
  | typedArray (format : NumberFormat) (size : Nat) :
      Lays resolver (.array (.number ⟨format, .little⟩) (.fixed size))
        (.typedArray (.number format) size)
  | option {item : TypeNode} {codec : Codec} (flag : NumberFormat) (isFixed : Bool)
      (h : Lays resolver item codec) :
      Lays resolver (.option item ⟨flag, .little⟩ isFixed) (.option codec flag isFixed)
  | set {item : TypeNode} {codec : Codec} {count : Count} {length : Length}
      (hcount : lengthOf? count = some length) (h : Lays resolver item codec) :
      Lays resolver (.set item count) (.set codec length)
  | map {key value : TypeNode} {keyCodec valueCodec : Codec} {count : Count} {length : Length}
      (hcount : lengthOf? count = some length) (hkey : Lays resolver key keyCodec)
      (hvalue : Lays resolver value valueCodec) :
      Lays resolver (.map key value count) (.map keyCodec valueCodec length)
  | tuple {items : List TypeNode} {codecs : List Codec} (hlength : items.length = codecs.length)
      (h : ∀ part ∈ items.zip codecs, Lays resolver part.1 part.2) :
      Lays resolver (.tuple items) (.tuple codecs)
  /-- A size around a text is the length of the text. -/
  | fixedText (size : Nat) :
      Lays resolver (.fixedSize (.string .utf8) size) (.string (.fixed size))
  /-- A size around bytes is the length of the bytes. -/
  | fixedBytes (size : Nat) : Lays resolver (.fixedSize .bytes size) (.bytes (.fixed size))
  | fixedSize {inner : TypeNode} {codec : Codec} (size : Nat)
      (htext : ∀ encoding, inner ≠ .string encoding) (hbytes : inner ≠ .bytes)
      (h : Lays resolver inner codec) :
      Lays resolver (.fixedSize inner size) (.fixedSize codec size)
  | prefixedText (width : NumberFormat) :
      Lays resolver (.sizePrefix (.string .utf8) ⟨width, .little⟩) (.string (.prefixed width))
  | prefixedBytes (width : NumberFormat) :
      Lays resolver (.sizePrefix .bytes ⟨width, .little⟩) (.bytes (.prefixed width))
  | sizePrefix {inner : TypeNode} {codec : Codec} (width : NumberFormat)
      (htext : ∀ encoding, inner ≠ .string encoding) (hbytes : inner ≠ .bytes)
      (h : Lays resolver inner codec) :
      Lays resolver (.sizePrefix inner ⟨width, .little⟩) (.sizePrefixed codec width)
  /-- A class stands elsewhere. -/
  | reference {name : String} {program : Option String} {defined : DefinedType}
      (kind : DefinedKind)
      (hdefined : resolver.dictionary.definedType? resolver.program name program = some defined)
      (hshape : DefinedShape.ofType defined.type ≠ .synonym) :
      Lays resolver (.link name program) (.defined (className name) kind)
  /-- An alias is replaced by what it stands for. -/
  | synonym {name : String} {program : Option String} {defined : DefinedType} {codec : Codec}
      (hdefined : resolver.dictionary.definedType? resolver.program name program = some defined)
      (hshape : DefinedShape.ofType defined.type = .synonym)
      (h : Lays resolver defined.type codec) : Lays resolver (.link name program) codec
  | struct (name : String) {fields : List StructField} {codecs : List FieldCodec}
      (hnames : List.Forall₂ (fun field codec => field.name = codec.name) fields codecs)
      (h : ∀ part ∈ fields.zip codecs, Lays resolver part.1.type part.2.codec) :
      Lays resolver (.struct fields) (.struct name codecs)
  | enum (name : String) (size : NumberFormat) {variants : List EnumVariant}
      {codecs : List VariantCodec} (hlength : variants.length = codecs.length)
      (hforms : ∀ part ∈ variants.zip codecs, HasForm part.1 part.2.payload)
      (h : ∀ part ∈ variants.zip codecs, ∀ item ∈ (variantTypes part.1).zip part.2.payload.codecs,
        Lays resolver item.1 item.2) :
      Lays resolver (.enum variants ⟨size, .little⟩) (.enum name size codecs)
  | unknown (kind : String) : Lays resolver .unknown (.unknown kind)

end Resolver

/-! ## Classes keep their layout -/

namespace Manifest

/-- A further class beside a type changes nothing but the list of these classes. -/
theorem exists_declare_eq (manifest : Manifest) (declaration : Declaration) :
    ∃ all, manifest.declare declaration = { manifest with declarations := all } := by
  unfold declare
  split
  · exact ⟨_, rfl⟩
  · exact ⟨_, rfl⟩

theorem exists_foldl_declare_eq (declarations : List Declaration) (manifest : Manifest) :
    ∃ all, declarations.foldl declare manifest = { manifest with declarations := all } := by
  induction declarations generalizing manifest with
  | nil => exact ⟨_, rfl⟩
  | cons declaration declarations ih =>
    obtain ⟨all, hhead⟩ := manifest.exists_declare_eq declaration
    obtain ⟨all', htail⟩ := ih { manifest with declarations := all }
    exact ⟨all', by rw [List.foldl_cons, hhead, htail]⟩

/-- What other types need changes nothing but what is needed. -/
theorem exists_foldl_absorb_eq (children : List Manifest) (manifest : Manifest) :
    ∃ imports all diagnostics, children.foldl absorb manifest =
      { manifest with imports := imports, declarations := all, diagnostics := diagnostics } := by
  induction children generalizing manifest with
  | nil => exact ⟨_, _, _, rfl⟩
  | cons child children ih =>
    obtain ⟨all, hhead⟩ := exists_foldl_declare_eq child.declarations
      { manifest with imports := manifest.imports.merge child.imports }
    obtain ⟨imports, all', diagnostics, htail⟩ := ih (manifest.absorb child)
    exact ⟨imports, all', diagnostics, by rw [List.foldl_cons, htail, absorb, hhead]⟩

@[simp] theorem codec_declare (manifest : Manifest) (declaration : Declaration) :
    (manifest.declare declaration).codec = manifest.codec := by
  obtain ⟨_, h⟩ := manifest.exists_declare_eq declaration
  rw [h]

@[simp] theorem codec_foldl_absorb (children : List Manifest) (manifest : Manifest) :
    (children.foldl absorb manifest).codec = manifest.codec := by
  obtain ⟨_, _, _, h⟩ := exists_foldl_absorb_eq children manifest
  rw [h]

@[simp] theorem codec_absorb (manifest child : Manifest) :
    (manifest.absorb child).codec = manifest.codec :=
  codec_foldl_absorb [child] manifest

end Manifest

@[simp] theorem codec_classManifest (ctx : ResolveContext) (name : String) (codec : Codec)
    (shape : Shape) (children : List Manifest) :
    (classManifest ctx name codec shape children).codec = codec := by
  unfold classManifest
  split <;> simp [Manifest.leaf]

/-- A class that is its user shows its fields. -/
theorem fields?_classManifest {ctx : ResolveContext} (hctx : ctx.declares = false) (name : String)
    (codec : Codec) (fields : List FieldManifest) (children : List Manifest) :
    (classManifest ctx name codec (.struct fields) children).fields? = some fields := by
  simp [classManifest, hctx, Manifest.fields?]

/-! ## One level -/

namespace Resolver

variable {resolver : Resolver} {child : ResolveChild} {ctx : ResolveContext} {manifest : Manifest}

/-- The level below gives layouts. -/
def ChildLays (resolver : Resolver) (child : ResolveChild) : Prop :=
  ∀ {node ctx manifest}, child node ctx = .ok manifest → resolver.Lays node manifest.codec

/-- A field, in the description and as a part of a codec, with its name and a layout of its type. -/
def FieldLays (resolver : Resolver) (field : StructField) (codec : FieldCodec) : Prop :=
  field.name = codec.name ∧ resolver.Lays field.type codec.codec

theorem fieldLays_of_fieldManifest (hchild : resolver.ChildLays child) {field : StructField}
    {result : FieldManifest × Manifest} (h : fieldManifest child ctx field = .ok result) :
    resolver.FieldLays field result.1.entry := by
  obtain ⟨manifest, hmanifest, h⟩ := Resolved.bind_eq_ok_iff.mp h
  obtain rfl := Except.ok.inj h
  exact ⟨rfl, hchild hmanifest⟩

/-- A struct has fields with their names and with layouts of their types. -/
theorem structManifest_spec (hchild : resolver.ChildLays child) {fields : List StructField}
    (h : structManifest child ctx fields = .ok manifest) : ∃ name manifests,
    manifest.codec = .struct name (manifests.map FieldManifest.entry) ∧
      List.Forall₂ resolver.FieldLays fields (manifests.map FieldManifest.entry) ∧
      (ctx.declares = false → manifest.fields? = some manifests) := by
  obtain ⟨resolved, hresolved, h⟩ := Resolved.bind_eq_ok_iff.mp h
  obtain rfl := Except.ok.inj h
  refine ⟨_, resolved.map Prod.fst, codec_classManifest _ _ _ _ _, ?_, fun hctx =>
    fields?_classManifest hctx _ _ _ _⟩
  rw [List.map_map, List.forall₂_map_right_iff]
  exact (Resolved.mapM_eq_ok_iff.mp hresolved).imp fun _ _ => fieldLays_of_fieldManifest hchild

theorem lays_of_fields {fields : List StructField} {codecs : List FieldCodec} (name : String)
    (h : List.Forall₂ resolver.FieldLays fields codecs) :
    resolver.Lays (.struct fields) (.struct name codecs) := by
  refine .struct name (h.imp fun _ _ hfield => hfield.1) ?_
  rintro ⟨field, codec⟩ hpart
  exact ((List.forall₂_iff_zip.mp h).2 hpart).2

theorem payloadItems_spec (hchild : resolver.ChildLays child) {items : List TypeNode} :
    ∀ {position : Nat} {resolved : List (FieldManifest × Manifest)},
    payloadItems child ctx position items = .ok resolved →
      List.Forall₂ resolver.Lays items ((resolved.map Prod.fst).map FieldManifest.codec) := by
  induction items with
  | nil =>
    intro position resolved h
    obtain rfl := Except.ok.inj h
    exact .nil
  | cons item items ih =>
    intro position resolved h
    obtain ⟨head, hhead, h⟩ := Resolved.bind_eq_ok_iff.mp h
    obtain ⟨tail, htail, h⟩ := Resolved.bind_eq_ok_iff.mp h
    obtain rfl := Except.ok.inj h
    obtain ⟨manifest, hmanifest, hhead⟩ := Resolved.bind_eq_ok_iff.mp hhead
    obtain rfl := Except.ok.inj hhead
    exact .cons (hchild hmanifest) (ih htail)

/-- A variant, in the description and as a part of a codec, with the form that is declared and
layouts of the types of its parts. -/
def VariantLays (resolver : Resolver) (variant : EnumVariant) (payload : Payload) : Prop :=
  HasForm variant payload ∧ ∀ item ∈ (variantTypes variant).zip payload.codecs,
    resolver.Lays item.1 item.2

theorem forall₂_of_lays_tuple {items : List TypeNode} {codec : Codec}
    (h : resolver.Lays (.tuple items) codec) :
    ∃ codecs, codec = .tuple codecs ∧ List.Forall₂ resolver.Lays items codecs := by
  cases h with
  | tuple hlength hzip => exact ⟨_, rfl, forall₂_of_zip hlength hzip⟩

theorem forall₂_of_lays_struct {fields : List StructField} {codec : Codec}
    (h : resolver.Lays (.struct fields) codec) :
    ∃ name codecs, codec = .struct name codecs ∧
      List.Forall₂ resolver.FieldLays fields codecs := by
  cases h with
  | struct name hnames hzip =>
    exact ⟨name, _, rfl, hnames.mp (fun _ _ => And.intro) (forall₂_of_zip hnames.length_eq hzip)⟩

/-- The layouts of an enum have variants with their forms and with layouts of their parts. -/
theorem forall₂_of_lays_enum {variants : List EnumVariant} {size : NumberType} {codec : Codec}
    (h : resolver.Lays (.enum variants size) codec) : ∃ name format codecs,
      size = ⟨format, .little⟩ ∧ codec = .enum name format codecs ∧
        List.Forall₂ (fun variant codec => resolver.VariantLays variant codec.payload) variants
          codecs := by
  cases h with
  | enum name format hlength hforms hzip =>
    refine ⟨name, format, _, rfl, rfl, forall₂_of_zip hlength fun part hpart => ?_⟩
    exact ⟨hforms part hpart, hzip part hpart⟩

/-- The parts of a variant have layouts in the payload. -/
theorem forall₂_of_variantLays {variant : EnumVariant} {payload : Payload}
    (h : resolver.VariantLays variant payload) :
    List.Forall₂ resolver.Lays (variantTypes variant) payload.codecs :=
  forall₂_of_zip (length_codecs_of_hasForm h.1) h.2

theorem variantLays_of_variantPayload (hchild : resolver.ChildLays child)
    (hctx : ctx.declares = false) {variant : EnumVariant} {result : VariantPayload × List Manifest}
    (h : variantPayload child ctx variant = .ok result) :
    resolver.VariantLays variant result.1.codec := by
  cases variant with
  | empty name =>
    obtain rfl := Except.ok.inj h
    exact ⟨.empty name, fun item hitem => by cases hitem⟩
  | tuple name items =>
    obtain ⟨resolved, hresolved, h⟩ := Resolved.bind_eq_ok_iff.mp h
    obtain rfl := Except.ok.inj h
    obtain ⟨hlength, hzip⟩ := List.forall₂_iff_zip.mp (payloadItems_spec hchild hresolved)
    exact ⟨.tuple name hlength, fun item hitem => hzip hitem⟩
  | struct name fields =>
    obtain ⟨manifest, hmanifest, h⟩ := Resolved.bind_eq_ok_iff.mp h
    obtain rfl := Except.ok.inj h
    -- The fields of a struct payload are inlined, so the manifest shows them.
    obtain ⟨_, manifests, -, hfields, hshape⟩ := structManifest_spec hchild hmanifest
    simp only [hshape hctx, Option.getD_some, VariantPayload.codec]
    refine ⟨.struct name (hfields.imp fun _ _ hfield => hfield.1), ?_⟩
    have htypes : List.Forall₂ resolver.Lays (fields.map StructField.type)
        ((manifests.map FieldManifest.entry).map FieldCodec.codec) := by
      rw [List.forall₂_map_left_iff, List.forall₂_map_right_iff]
      exact hfields.imp fun _ _ hfield => hfield.2
    exact fun item hitem => (List.forall₂_iff_zip.mp htypes).2 hitem

theorem variantManifests_spec (hchild : resolver.ChildLays child) {variants : List EnumVariant} :
    ∀ {index : Nat} {resolved : List (VariantManifest × List Manifest)},
    variantManifests child ctx index variants = .ok resolved →
      List.Forall₂ (fun variant codec => resolver.VariantLays variant codec.payload) variants
        ((resolved.map Prod.fst).map VariantManifest.codec) := by
  induction variants with
  | nil =>
    intro index resolved h
    obtain rfl := Except.ok.inj h
    exact .nil
  | cons variant variants ih =>
    intro index resolved h
    obtain ⟨⟨payload, needs⟩, hpayload, h⟩ := Resolved.bind_eq_ok_iff.mp h
    obtain ⟨tail, htail, h⟩ := Resolved.bind_eq_ok_iff.mp h
    obtain rfl := Except.ok.inj h
    exact .cons (variantLays_of_variantPayload hchild rfl hpayload) (ih htail)

theorem lays_of_tuple {items : List TypeNode} {children : List Manifest}
    (h : List.Forall₂ (fun item manifest => resolver.Lays item manifest.codec) items children) :
    resolver.Lays (.tuple items) (.tuple (children.map Manifest.codec)) := by
  obtain ⟨hlength, hzip⟩ := List.forall₂_iff_zip.mp (List.forall₂_map_right_iff.mpr h)
  exact .tuple hlength fun part hpart => hzip hpart

theorem lays_of_enum (hchild : resolver.ChildLays child) {variants : List EnumVariant}
    {size : NumberType} (h : enumManifest child ctx variants size = .ok manifest) :
    resolver.Lays (.enum variants size) manifest.codec := by
  obtain ⟨format, hformat, hvariants⟩ := Resolved.bind_eq_ok_iff.mp h
  obtain rfl := littleEndianFormat_eq_ok_iff.mp hformat
  obtain ⟨resolved, hresolved, hresult⟩ := Resolved.bind_eq_ok_iff.mp hvariants
  obtain rfl := Except.ok.inj hresult
  rw [codec_classManifest]
  obtain ⟨hlength, hzip⟩ := List.forall₂_iff_zip.mp (variantManifests_spec hchild hresolved)
  exact .enum _ format hlength (fun part hpart => (hzip hpart).1) fun part hpart => (hzip hpart).2

theorem lays_of_link (hchild : resolver.ChildLays child) {name : String} {program : Option String}
    (h : resolver.linkManifest child ctx name program = .ok manifest) :
    resolver.Lays (.link name program) manifest.codec := by
  unfold linkManifest at h
  cases hdefined : resolver.dictionary.definedType? resolver.program name program with
  | none =>
    rw [hdefined] at h
    cases h
  | some defined =>
    rw [hdefined] at h
    simp only at h
    -- Only an alias is followed; a class is referred to by its name.
    cases hshape : DefinedShape.ofType defined.type with
    | struct =>
      rw [hshape] at h
      obtain rfl := Except.ok.inj h
      exact .reference .struct hdefined (by simp [hshape])
    | enum variants =>
      rw [hshape] at h
      obtain rfl := Except.ok.inj h
      exact .reference (.enum variants) hdefined (by simp [hshape])
    | synonym =>
      rw [hshape] at h
      obtain ⟨inner, hinner, h⟩ := Resolved.bind_eq_ok_iff.mp h
      obtain rfl := Except.ok.inj h
      have hlays : resolver.Lays defined.type inner.codec := hchild hinner
      exact .synonym hdefined hshape hlays

/-- **One level of the resolver gives a layout** if the levels below do. -/
theorem lays_of_resolveLevel (hchild : resolver.ChildLays child) {node : TypeNode}
    (h : resolver.resolveLevel child node ctx = .ok manifest) :
    resolver.Lays node manifest.codec := by
  -- The cases are those of what one level makes, and each is one case of what a layout is.
  cases makes_of_resolveLevel h with
  | number format => exact .number format
  | amount format => exact .amount format
  | solAmount format => exact .solAmount format
  | dateTime format => exact .dateTime format
  | boolean format => exact .boolean format
  | string => exact .string
  | bytes => exact .bytes
  | publicKey => exact .publicKey
  | @typedList _ _ format htyped size =>
    obtain rfl := eq_number_of_typedItem? htyped
    exact .typedArray format size
  | array hcount _ hinner => exact .array hcount (hchild hinner)
  | option flag isFixed hinner => exact .option flag isFixed (hchild hinner)
  | set hcount hinner => exact .set hcount (hchild hinner)
  | map hcount hkey hvalue => exact .map hcount (hchild hkey) (hchild hvalue)
  | tuple hchildren => exact lays_of_tuple (hchildren.imp fun _ _ => hchild)
  | fixedText size => exact .fixedText size
  | fixedBytes size => exact .fixedBytes size
  | fixedSize size htext hbytes hinner => exact .fixedSize size htext hbytes (hchild hinner)
  | prefixedText width => exact .prefixedText width
  | prefixedBytes width => exact .prefixedBytes width
  | sizePrefix width htext hbytes hinner => exact .sizePrefix width htext hbytes (hchild hinner)
  | link h => exact lays_of_link hchild h
  | struct h =>
    obtain ⟨name, manifests, hcodec, hfields, -⟩ := structManifest_spec hchild h
    rw [hcodec]
    exact lays_of_fields name hfields
  | enum h => exact lays_of_enum hchild h
  | unknown => exact .unknown _

theorem childLays_resolveWithin (resolver : Resolver) (levels : Nat) :
    resolver.ChildLays (resolver.resolveWithin levels) := by
  -- The induction is on the number of levels that are left.
  induction levels with
  | zero =>
    intro node ctx manifest h
    cases h
  | succ levels ih =>
    intro node ctx manifest h
    exact lays_of_resolveLevel ih h

/-- **What a type is resolved to is a layout of it**, in every context. -/
theorem lays_of_resolve {node : TypeNode} (h : resolver.resolve node ctx = .ok manifest) :
    resolver.Lays node manifest.codec :=
  resolver.childLays_resolveWithin (levelsBelow ctx.depth) h

end Resolver

end DartClient
