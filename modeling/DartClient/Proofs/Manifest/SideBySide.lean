import DartClient.Proofs.Codec.Congruence
import DartClient.Proofs.Manifest.Layout

/-!
# Two runs of the resolver side by side

Two runs of the resolver on one type are followed level by level, in any two contexts. Nothing that
one level makes of the types below it looks into their codecs. So if the codecs from below are
related by a congruence, then the codecs of the level are related too, wherever both runs succeed;
and the same is reported with the same messages. Which congruence it is does not matter here.

## Main definitions

* `Resolved.Agree`: two steps whose results are related.
* `Manifest.Related`: manifests with related codecs and the same messages.

## Main results

* `Resolver.agree_resolveLevel`: two levels of the resolver agree if the levels below do.
* `Resolver.related_resolveWithin`: two runs of one resolver agree as far as both get.
-/

namespace DartClient

open Idl (TypeNode StructField EnumVariant NumberType NumberFormat Count BytesEncoding DefinedType)

/-! ## Two steps side by side -/

namespace Resolved

variable {α β γ δ : Type} {R : α → β → Prop} {S : γ → δ → Prop}

/-- If both steps succeed, their results are related. -/
def Agree (R : α → β → Prop) (step : Resolved α) (step' : Resolved β) : Prop :=
  ∀ a b, step = .ok a → step' = .ok b → R a b

theorem agree_ok {a : α} {b : β} (h : R a b) : Agree R (.ok a) (.ok b) := by
  intro a' b' ha hb
  obtain rfl := Except.ok.inj ha
  obtain rfl := Except.ok.inj hb
  exact h

theorem agree_error_left (error : ClientError) (step' : Resolved β) :
    Agree R (.error error) step' := by
  intro a b ha
  cases ha

theorem agree_error_right (step : Resolved α) (error : ClientError) :
    Agree R step (.error error) := by
  intro a b _ hb
  cases hb

theorem Agree.bind {step : Resolved α} {step' : Resolved β} {next : α → Resolved γ}
    {next' : β → Resolved δ} (h : Agree R step step')
    (hnext : ∀ a b, R a b → Agree S (next a) (next' b)) :
    Agree S (step >>= next) (step' >>= next') := by
  intro c d hc hd
  obtain ⟨a, ha, hc⟩ := bind_eq_ok_iff.mp hc
  obtain ⟨b, hb, hd⟩ := bind_eq_ok_iff.mp hd
  exact hnext a b (h a b ha hb) c d hc hd

/-- Steps with the same result, and what follows on it. -/
theorem Agree.bind_eq {step step' : Resolved α} {next : α → Resolved γ} {next' : α → Resolved δ}
    (h : Agree Eq step step') (hnext : ∀ a, Agree S (next a) (next' a)) :
    Agree S (step >>= next) (step' >>= next') := by
  refine h.bind fun a b hab => ?_
  subst hab
  exact hnext a

/-- Results that are computed from related results. -/
theorem Agree.map {step : Resolved α} {step' : Resolved β} {f : α → γ} {g : β → δ}
    (h : Agree R step step') (hfg : ∀ a b, R a b → S (f a) (g b)) :
    Agree S (do return f (← step)) (do return g (← step')) :=
  h.bind fun a b hab => agree_ok (hfg a b hab)

theorem agree_mapM {ι : Type} {step : ι → Resolved α} {step' : ι → Resolved β}
    (h : ∀ i, Agree R (step i) (step' i)) (items : List ι) :
    Agree (List.Forall₂ R) (items.mapM step) (items.mapM step') := by
  intro as bs has hbs
  exact forall₂_join h (mapM_eq_ok_iff.mp has) (mapM_eq_ok_iff.mp hbs)

end Resolved

open Resolved

/-- A format does not depend on where the number stands. -/
theorem agree_littleEndianFormat (number : NumberType) (kind : String) (ctx ctx' : ResolveContext) :
    Agree Eq (littleEndianFormat number kind ctx) (littleEndianFormat number kind ctx') := by
  intro format format' h h'
  obtain rfl := littleEndianFormat_eq_ok_iff.mp h
  cases littleEndianFormat_eq_ok_iff.mp h'
  rfl

theorem agree_countLength (count : Count) (kind : String) (ctx ctx' : ResolveContext) :
    Agree Eq (countLength count kind ctx) (countLength count kind ctx') := by
  intro length length' h h'
  have hlength := (countLength_eq_ok_iff.mp h).symm.trans (countLength_eq_ok_iff.mp h')
  exact Option.some.inj hlength

/-! ## Related manifests -/

/-- What a manifest reports, without the places. -/
def Manifest.messages (manifest : Manifest) : List String :=
  manifest.diagnostics.map Diagnostic.message

namespace Manifest

@[simp] theorem messages_leaf (targetType : String) (codec : Codec) :
    (leaf targetType codec).messages = [] := rfl

@[simp] theorem messages_declare (manifest : Manifest) (declaration : Declaration) :
    (manifest.declare declaration).messages = manifest.messages := by
  obtain ⟨_, h⟩ := manifest.exists_declare_eq declaration
  rw [h]
  rfl

@[simp] theorem messages_absorb (manifest child : Manifest) :
    (manifest.absorb child).messages = manifest.messages ++ child.messages := by
  obtain ⟨_, h⟩ := exists_foldl_declare_eq child.declarations
    { manifest with imports := manifest.imports.merge child.imports }
  rw [absorb, h, messages, messages, messages, List.map_append]

@[simp] theorem messages_foldl_absorb (children : List Manifest) (manifest : Manifest) :
    (children.foldl absorb manifest).messages =
      manifest.messages ++ children.flatMap messages := by
  induction children generalizing manifest with
  | nil => simp
  | cons child children ih =>
    rw [List.foldl_cons, ih, messages_absorb, List.flatMap_cons, List.append_assoc]

@[simp] theorem messages_classManifest (ctx : ResolveContext) (name : String) (codec : Codec)
    (shape : Shape) (children : List Manifest) :
    (classManifest ctx name codec shape children).messages = children.flatMap messages := by
  have hneeds := messages_foldl_absorb children (.leaf name codec)
  unfold classManifest
  split
  · rw [messages_declare]
    exact hneeds
  · exact hneeds

/-- The manifests have related layouts and report the same. -/
structure Related (R : Codec → Codec → Prop) (manifest manifest' : Manifest) : Prop where
  /-- The layouts. -/
  codec : R manifest.codec manifest'.codec
  /-- What is reported. -/
  messages : manifest.messages = manifest'.messages

namespace Related

variable {R : Codec → Codec → Prop} {manifest manifest' : Manifest}

theorem refl (hR : Codec.IsCongruence R) (manifest : Manifest) : manifest.Related R manifest :=
  ⟨hR.refl manifest.codec, rfl⟩

/-- Types around related types. -/
theorem wrap (h : manifest.Related R manifest') (targetType targetType' : String)
    {codec codec' : Codec} (hcodec : R codec codec') :
    (manifest.wrap targetType codec).Related R (manifest'.wrap targetType' codec') :=
  ⟨hcodec, h.messages⟩

/-- Wrappers that keep the class of what they wrap. -/
theorem wrapKeepingShape (h : manifest.Related R manifest') {codec codec' : Codec}
    (hcodec : R codec codec') :
    (DartClient.wrapKeepingShape manifest codec).Related R
      (DartClient.wrapKeepingShape manifest' codec') :=
  ⟨hcodec, h.messages⟩

/-- Links to aliases of related types. -/
theorem synonym (h : manifest.Related R manifest') (name module : String) :
    (aliasManifest name module manifest).Related R (aliasManifest name module manifest') :=
  ⟨h.codec, h.messages⟩

theorem absorb {child child' : Manifest} (h : manifest.Related R manifest')
    (hchild : child.Related R child') :
    (manifest.absorb child).Related R (manifest'.absorb child') where
  codec := by
    rw [codec_absorb, codec_absorb]
    exact h.codec
  messages := by rw [messages_absorb, messages_absorb, h.messages, hchild.messages]

end Related

end Manifest

/-! ## One level -/

section Level

variable {R : Codec → Codec → Prop} {child child' : ResolveChild} {ctx ctx' : ResolveContext}

/-- Classes with related parts. -/
theorem related_classManifest {name name' : String} {codec codec' : Codec} {shape shape' : Shape}
    {children children' : List Manifest} (hcodec : R codec codec')
    (hchildren : children.flatMap Manifest.messages = children'.flatMap Manifest.messages) :
    (classManifest ctx name codec shape children).Related R
      (classManifest ctx' name' codec' shape' children') where
  codec := by
    rw [codec_classManifest, codec_classManifest]
    exact hcodec
  messages := by rw [Manifest.messages_classManifest, Manifest.messages_classManifest, hchildren]

/-- The levels below give related manifests, in any two contexts. -/
def ChildRelated (R : Codec → Codec → Prop) (child child' : ResolveChild) : Prop :=
  ∀ node ctx ctx', Agree (Manifest.Related R) (child node ctx) (child' node ctx')

/-- The results for a field are related. -/
def FieldRelated (R : Codec → Codec → Prop) (result result' : FieldManifest × Manifest) : Prop :=
  FieldCodec.Related R result.1.entry result'.1.entry ∧ result.2.Related R result'.2

/-- The results for a variant are related. -/
def VariantRelated (R : Codec → Codec → Prop)
    (result result' : VariantManifest × List Manifest) : Prop :=
  VariantCodec.Related R result.1.codec result'.1.codec ∧
    result.2.flatMap Manifest.messages = result'.2.flatMap Manifest.messages

section Fields

variable {resolved resolved' : List (FieldManifest × Manifest)}
  (h : List.Forall₂ (FieldRelated R) resolved resolved')
include h

theorem related_entries :
    List.Forall₂ (FieldCodec.Related R) ((resolved.map Prod.fst).map FieldManifest.entry)
      ((resolved'.map Prod.fst).map FieldManifest.entry) := by
  rw [List.map_map, List.map_map]
  exact forall₂_map (fun _ _ hfield => hfield.1) h

theorem related_codecs :
    List.Forall₂ R ((resolved.map Prod.fst).map FieldManifest.codec)
      ((resolved'.map Prod.fst).map FieldManifest.codec) := by
  rw [List.map_map, List.map_map]
  exact forall₂_map (fun _ _ hfield => hfield.1.2) h

theorem messages_eq_of_fieldRelated :
    (resolved.map Prod.snd).flatMap Manifest.messages =
      (resolved'.map Prod.snd).flatMap Manifest.messages := by
  rw [List.flatMap_map, List.flatMap_map]
  exact flatMap_eq_of_forall₂ (fun _ _ hfield => hfield.2.messages) h

end Fields

section Congruence

variable (hR : Codec.IsCongruence R)
include hR

/-! ### Leaves -/

theorem agree_numberManifest (number : NumberType) (kind : String) (ctx ctx' : ResolveContext) :
    Agree (Manifest.Related R) (numberManifest number kind ctx)
      (numberManifest number kind ctx') := by
  unfold numberManifest
  exact (agree_littleEndianFormat number kind ctx ctx').bind_eq fun format =>
    agree_ok (.refl hR _)

theorem agree_stringManifest (encoding : BytesEncoding) (length : Length) (kind : String)
    (ctx ctx' : ResolveContext) :
    Agree (Manifest.Related R) (stringManifest encoding length kind ctx)
      (stringManifest encoding length kind ctx') := by
  unfold stringManifest
  split
  · exact agree_ok (.refl hR _)
  · exact agree_error_left _ _

variable (hchild : ChildRelated R child child')
include hchild

/-! ### Parts -/

theorem agree_tupleManifest (items : List TypeNode) :
    Agree (Manifest.Related R) (tupleManifest child ctx items)
      (tupleManifest child' ctx' items) := by
  unfold tupleManifest
  refine (agree_mapM (fun item => hchild item ctx.item ctx'.item) items).map ?_
  intro children children' h
  constructor
  · exact hR.tuple (forall₂_map (fun _ _ hrelated => hrelated.codec) h)
  · show (children.foldl Manifest.absorb _).messages = (children'.foldl Manifest.absorb _).messages
    rw [Manifest.messages_foldl_absorb, Manifest.messages_foldl_absorb,
      flatMap_eq_of_forall₂ (fun _ _ hrelated => hrelated.messages) h]

omit hR in
theorem agree_fieldManifest (field : StructField) :
    Agree (FieldRelated R) (fieldManifest child ctx field) (fieldManifest child' ctx' field) := by
  unfold fieldManifest
  exact (hchild field.type _ _).map fun manifest manifest' h => ⟨⟨rfl, h.codec⟩, h⟩

/-- Structs are related, and so are the fields of those that are their users. -/
theorem agree_structManifest (fields : List StructField) :
    Agree (fun manifest manifest' => manifest.Related R manifest' ∧
        (ctx.declares = false → ctx'.declares = false →
          List.Forall₂ (FieldCodec.Related R)
            ((manifest.fields?.getD []).map FieldManifest.entry)
            ((manifest'.fields?.getD []).map FieldManifest.entry)))
      (structManifest child ctx fields) (structManifest child' ctx' fields) := by
  unfold structManifest
  refine (agree_mapM (fun field => agree_fieldManifest hchild field) fields).map ?_
  intro resolved resolved' h
  have hfields := related_entries h
  refine ⟨related_classManifest (hR.struct _ _ hfields) (messages_eq_of_fieldRelated h), ?_⟩
  intro hctx hctx'
  simp only [fields?_classManifest hctx, fields?_classManifest hctx', Option.getD_some]
  exact hfields

/-! ### Variants -/

omit hR in
theorem agree_payloadItems (items : List TypeNode) :
    ∀ position, Agree (List.Forall₂ (FieldRelated R)) (payloadItems child ctx position items)
      (payloadItems child' ctx' position items) := by
  induction items with
  | nil => exact fun _ => agree_ok .nil
  | cons item items ih =>
    intro position
    have hitem : Agree (FieldRelated R) (payloadItem child ctx position item)
        (payloadItem child' ctx' position item) := by
      unfold payloadItem
      exact (hchild item _ _).map fun manifest manifest' h => ⟨⟨rfl, h.codec⟩, h⟩
    unfold payloadItems
    exact hitem.bind fun _ _ hhead => (ih (position + 1)).map fun _ _ htail => .cons hhead htail

/-- The payloads of a variant are related, since its fields are always its own. -/
theorem agree_variantPayload (variant : EnumVariant) (name : String) :
    Agree (fun result result' => Payload.Related R result.1.codec result'.1.codec ∧
        result.2.flatMap Manifest.messages = result'.2.flatMap Manifest.messages)
      (variantPayload child (ctx.variant name) variant)
      (variantPayload child' (ctx'.variant name) variant) := by
  cases variant with
  | empty variantName => exact agree_ok ⟨.empty, rfl⟩
  | tuple variantName items =>
    unfold variantPayload
    refine (agree_payloadItems hchild items 0).map fun resolved resolved' h => ⟨?_, ?_⟩
    · exact .tuple (related_codecs h)
    · exact messages_eq_of_fieldRelated h
  | struct variantName fields =>
    unfold variantPayload
    refine (agree_structManifest hR hchild fields).map fun manifest manifest' h => ⟨?_, ?_⟩
    -- The fields of a payload are inlined in both contexts, so both manifests show them.
    · exact .struct (h.2 rfl rfl)
    · simp only [List.flatMap_singleton, h.1.messages]

theorem agree_variantManifests (variants : List EnumVariant) :
    ∀ index, Agree (List.Forall₂ (VariantRelated R)) (variantManifests child ctx index variants)
      (variantManifests child' ctx' index variants) := by
  induction variants with
  | nil => exact fun _ => agree_ok .nil
  | cons variant variants ih =>
    intro index
    unfold variantManifests
    refine (agree_variantPayload hR hchild variant _).bind ?_
    rintro ⟨payload, needs⟩ ⟨payload', needs'⟩ ⟨hpayload, hneeds⟩
    exact (ih (index + 1)).map fun _ _ htail => .cons ⟨⟨rfl, rfl, hpayload⟩, hneeds⟩ htail

theorem agree_enumManifest (variants : List EnumVariant) (size : NumberType) :
    Agree (Manifest.Related R) (enumManifest child ctx variants size)
      (enumManifest child' ctx' variants size) := by
  unfold enumManifest
  refine (agree_littleEndianFormat size _ ctx ctx').bind_eq fun format => ?_
  refine (agree_variantManifests hR hchild variants 0).map fun resolved resolved' h => ?_
  apply related_classManifest
  · refine hR.enum _ _ format ?_
    rw [List.map_map, List.map_map]
    exact forall₂_map (fun _ _ hvariant => hvariant.1) h
  · rw [List.flatMap_assoc, List.flatMap_assoc]
    exact flatMap_eq_of_forall₂ (fun _ _ hvariant => hvariant.2) h

/-! ### All kinds of types -/

namespace Resolver

variable {resolver : Resolver}

/-- An alias is resolved in a context of its own, of which only the depth differs. -/
theorem agree_linkManifest (name : String) (program : Option String) :
    Agree (Manifest.Related R) (resolver.linkManifest child ctx name program)
      (resolver.linkManifest child' ctx' name program) := by
  unfold linkManifest
  cases resolver.dictionary.definedType? resolver.program name program with
  | none => exact agree_error_left _ _
  | some defined =>
    simp only []
    cases DefinedShape.ofType defined.type with
    | struct | enum => exact agree_ok (.refl hR _)
    | synonym => exact (hchild defined.type _ _).map fun inner inner' h => h.synonym _ _

/-- **Two levels agree if the levels below do.** -/
theorem agree_resolveLevel :
    ChildRelated R (resolver.resolveLevel child) (resolver.resolveLevel child') := by
  intro node ctx ctx'
  unfold resolveLevel
  by_cases hdepth : maxTypeDepth < ctx.depth
  · rw [if_pos hdepth]
    exact agree_error_left _ _
  by_cases hdepth' : maxTypeDepth < ctx'.depth
  · rw [if_pos hdepth']
    exact agree_error_right _ _
  rw [if_neg hdepth, if_neg hdepth']
  -- Items stand in contexts that differ in the same ways, one level deeper.
  have hitem : ∀ item, Agree (Manifest.Related R) (child item ctx.item) (child' item ctx'.item) :=
    fun item => hchild item ctx.item ctx'.item
  cases node with
  | number number | amount number | solAmount number | dateTime number =>
    exact agree_numberManifest hR number _ ctx ctx'
  | boolean size =>
    exact (agree_littleEndianFormat size _ ctx ctx').bind_eq fun format => agree_ok (.refl hR _)
  | string encoding => exact agree_stringManifest hR encoding .borsh _ ctx ctx'
  | bytes | publicKey => exact agree_ok (.refl hR _)
  | array item count =>
    refine (agree_countLength count _ ctx ctx').bind_eq fun length => ?_
    -- Both runs see the same item, so both make a typed list of it or neither does.
    split
    · exact agree_ok (.refl hR _)
    · exact (hitem item).map fun inner inner' h => h.wrap _ _ (hR.list _ h.codec)
  | option item flag isFixed =>
    refine (agree_littleEndianFormat flag _ ctx ctx').bind_eq fun format => ?_
    exact (hitem item).map fun inner inner' h => h.wrap _ _ (hR.option format isFixed h.codec)
  | set item count =>
    refine (agree_countLength count _ ctx ctx').bind_eq fun length => ?_
    exact (hitem item).map fun inner inner' h => h.wrap _ _ (hR.set length h.codec)
  | map key value count =>
    refine (agree_countLength count _ ctx ctx').bind_eq fun length => ?_
    refine (hitem key).bind fun keys keys' hkey => ?_
    exact (hitem value).map fun values values' hvalue =>
      (hkey.absorb hvalue).wrap _ _ (hR.map length hkey.codec hvalue.codec)
  | tuple items => exact agree_tupleManifest hR hchild items
  | fixedSize inner size =>
    cases inner
    case string encoding => exact agree_stringManifest hR encoding (.fixed size) _ ctx ctx'
    case bytes => exact agree_ok (.refl hR _)
    all_goals
      exact (hitem _).map fun inner inner' h => h.wrapKeepingShape (hR.fixedSize size h.codec)
  | sizePrefix inner width =>
    refine (agree_littleEndianFormat width _ ctx ctx').bind_eq fun format => ?_
    cases inner
    case string encoding => exact agree_stringManifest hR encoding (.prefixed format) _ ctx ctx'
    case bytes => exact agree_ok (.refl hR _)
    all_goals
      exact (hitem _).map fun inner inner' h => h.wrapKeepingShape (hR.sizePrefixed format h.codec)
  | link name program => exact agree_linkManifest hR hchild name program
  | struct fields =>
    exact fun manifest manifest' h h' =>
      (agree_structManifest hR hchild fields manifest manifest' h h').1
  | enum variants size => exact agree_enumManifest hR hchild variants size
  | altered kind => exact agree_error_left _ _
  | unknown => exact agree_ok ⟨hR.refl _, rfl⟩

end Resolver

end Congruence

end Level

/-! ## All levels -/

/-- Runs of any two depths agree as far as both get. -/
theorem Resolver.related_resolveWithin {R : Codec → Codec → Prop} (hR : Codec.IsCongruence R)
    {resolver : Resolver} (levels levels' : Nat) :
    ChildRelated R (resolver.resolveWithin levels) (resolver.resolveWithin levels') := by
  -- The deeper context has fewer levels left, and the run that ends first agrees with any other.
  induction levels generalizing levels' with
  | zero => exact fun _ _ _ => agree_error_left _ _
  | succ levels ih =>
    cases levels' with
    | zero => exact fun _ _ _ => agree_error_right _ _
    | succ levels' => exact agree_resolveLevel hR (ih levels')

end DartClient
