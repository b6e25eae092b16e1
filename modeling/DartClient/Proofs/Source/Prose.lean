import DartClient.Proofs.Manifest.Unbroken
import DartClient.Proofs.Source.Comments

/-!
# Prose in generated code

Most of what stands in the classes and functions of generated code is made up: names of letters and
digits, types, annotations, numbers and fixed texts, none of which has line ends. Documentation is
put in as it is, and so are the name of an instruction and the expressions for seeds and addresses
that are filled in for accounts.

So what is continued behind a line end in an item is continued in one of these texts, and an item
whose texts have no line ends is read line by line as it was written.

## Main definitions

* `Item.Unbroken`: what is made up in an item is on one line.
* `Item.prose`: the texts that are put into an item as they are.

## Main results

* `Item.Unbroken.embeds_lines`: the lines of an item are continued by what continues its prose.
-/

namespace DartClient

open Text (OneLine OneLines oneLine_append oneLine_ofList oneLine_toString oneLines_append
  oneLines_cons oneLines_map oneLines_nil tails)

/-! ## Texts in lines -/

/-- The lines are continued behind line ends by what continues the texts. -/
def Embeds (lines texts : List String) : Prop := tails lines = tails texts

section Embeds

variable {lines others texts more : List String} {front indent : String}

theorem Embeds.append (h : Embeds lines texts) (hothers : Embeds others more) :
    Embeds (lines ++ others) (texts ++ more) := by
  rw [Embeds, Text.tails_append, Text.tails_append, h, hothers]

theorem embeds_code (h : OneLines lines) : Embeds lines [] := Text.tails_of_oneLines h

/-- Lines without line ends behind other ones. -/
theorem Embeds.code (h : Embeds lines texts) (hothers : OneLines others) :
    Embeds (lines ++ others) texts := by
  have happend := h.append (embeds_code hothers)
  rwa [List.append_nil] at happend

theorem embeds_singleton (hfront : OneLine front) (text : String) :
    Embeds [front ++ text] [text] := by
  rw [Embeds, tails, tails, List.flatMap_singleton, List.flatMap_singleton]
  exact Text.continuations_append hfront text

theorem embeds_map {α : Type} {items : List α} {front back : α → String}
    (hfront : ∀ item ∈ items, OneLine (front item)) :
    Embeds (items.map fun item => front item ++ back item) (items.map back) :=
  Text.tails_map_append hfront

theorem embeds_flatMap {α : Type} {items : List α} {write texts : α → List String}
    (h : ∀ item ∈ items, Embeds (write item) (texts item)) :
    Embeds (items.flatMap write) (items.flatMap texts) :=
  Text.tails_flatMap_congr h

theorem embeds_docLines (hindent : OneLine indent) (docs : List String) :
    Embeds (docLines docs indent) docs := by
  have hmark : OneLine "/// " := by decide
  have h : Embeds (docLines docs indent) (docs.map id) :=
    embeds_map fun _ _ => hindent.append hmark
  rwa [List.map_id] at h

end Embeds

theorem oneLine_byteListLiteral (bytes : List UInt8) : OneLine (byteListLiteral bytes) := by
  have hcall : OneLine "Uint8List.fromList(" := oneLine_ofList (by decide)
  have hopening : OneLine "[" := by decide
  have hcomma : OneLine ", " := by decide
  have hclosing : OneLine "]" := by decide
  have hend : OneLine ")" := by decide
  have hitems := Text.oneLine_intercalate hcomma
    (oneLines_map fun (b : UInt8) (_ : b ∈ bytes) => oneLine_toString b.toNat)
  exact (hcall.append ((hopening.append hitems).append hclosing)).append hend

/-! ## Classes with annotated fields -/

theorem FieldManifest.Unbroken.oneLine_parameter {field : FieldManifest} (h : field.Unbroken) :
    OneLine field.parameter := by
  have hrequired : OneLine "required " := by decide
  have hblank : OneLine " " := by decide
  have hparameter := ((hrequired.append h.targetType).append hblank).append h.name
  unfold FieldManifest.parameter
  cases htext : field.annotation? with
  | none => exact hparameter
  | some text =>
    exact ((h.codec.oneLine_of_annotation? htext).append hblank).append hparameter

/-- What is made up in a class with annotated fields is on one line. -/
structure RecordClass.Unbroken (record : RecordClass) : Prop where
  name : OneLine record.name
  fields : ∀ field ∈ record.fields, field.Unbroken
  constants : OneLines record.constants
  checks : OneLines record.checks
  reader : OneLines record.readerLines
  members : ∀ member ∈ record.members, OneLines member

/-- The texts that are put into a class as they are. -/
def RecordClass.prose (record : RecordClass) : List String :=
  record.docs ++ record.fields.flatMap FieldManifest.docs

namespace RecordClass

variable {record : RecordClass}

theorem oneLine_readCall {name data : String} (hname : OneLine name) (hdata : OneLine data) :
    OneLine (readCall name data) := by
  simp only [readCall, oneLine_append, hname, hdata, and_true]
  and_intros <;> exact oneLine_ofList (by decide)

theorem Unbroken.oneLines_constantLines (h : record.Unbroken) :
    OneLines record.constantLines := by
  have hindent : OneLine "  " := by decide
  unfold constantLines
  split
  · exact oneLines_nil
  · have hblank : OneLines [""] := oneLines_cons.mpr ⟨by decide, oneLines_nil⟩
    exact oneLines_append.mpr ⟨h.constants.indented hindent, hblank⟩

theorem Unbroken.embeds_parameterLines (h : record.Unbroken) :
    Embeds record.parameterLines (record.fields.flatMap FieldManifest.docs) := by
  have hindent : OneLine "    " := by decide
  have hcomma : OneLine "," := by decide
  refine embeds_flatMap fun field hfield => ?_
  have hparameter := (hindent.append (h.fields field hfield).oneLine_parameter).append hcomma
  exact (embeds_docLines hindent field.docs).code (oneLines_cons.mpr ⟨hparameter, oneLines_nil⟩)

theorem Unbroken.oneLines_factoryLines (h : record.Unbroken) : OneLines record.factoryLines := by
  have hindent : OneLine "    " := by decide
  have hchecks := h.checks.indented hindent
  have harguments : OneLines (record.fields.map fun field =>
      "      " ++ field.name ++ ": " ++ field.name ++ ",") := by
    refine oneLines_map fun field hfield => ?_
    simp only [oneLine_append, (h.fields field hfield).name, and_true]
    and_intros <;> exact oneLine_ofList (by decide)
  unfold factoryLines opening closing
  split
  all_goals
    simp only [oneLines_append, oneLines_cons, oneLines_nil, oneLine_append, h.name, hchecks,
      harguments, and_true]
    and_intros <;> exact oneLine_ofList (by decide)

theorem Unbroken.oneLines_showMethod (h : record.Unbroken) :
    OneLines (showMethod record.name record.fields) := by
  have hshown : OneLines (record.fields.map fun field =>
      "    buffer.writeln('  " ++ field.name ++ ": $" ++ field.name ++ "');") := by
    refine oneLines_map fun field hfield => ?_
    simp only [oneLine_append, (h.fields field hfield).name, and_true]
    and_intros <;> exact oneLine_ofList (by decide)
  simp only [showMethod, opening, closing, oneLines_append, oneLines_cons, oneLines_nil,
    oneLine_append, h.name, hshown, and_true]
  and_intros <;> exact oneLine_ofList (by decide)

theorem Unbroken.embeds_lines (h : record.Unbroken) : Embeds record.lines record.prose := by
  have hindent : OneLine "  " := by decide
  have hblanks : OneLine "    " := by decide
  have hmembers : OneLines (record.members.flatMap fun member => "" :: Text.indented "  " member) :=
    Text.oneLines_flatMap fun member hmember =>
      oneLines_cons.mpr ⟨by decide, (h.members member hmember).indented hindent⟩
  have hdocs : Embeds (docLines record.docs "") record.docs := embeds_docLines (by decide) _
  unfold lines prose
  refine Embeds.code (.code (.code (.code (.code (.code (.code (.code
    (.append (.code (.code (.code hdocs ?_) h.oneLines_constantLines) ?_) h.embeds_parameterLines)
    h.oneLines_factoryLines) ?_) (h.reader.indented hblanks)) ?_) hmembers) ?_)
    h.oneLines_showMethod) ?_
  all_goals
    simp only [opening, closing, oneLines_cons, oneLines_nil, oneLine_append, h.name, and_true]
    and_intros <;> exact oneLine_ofList (by decide)

end RecordClass

/-! ## Classes of variants -/

theorem EmptyClass.oneLines_lines {variant : EmptyClass} (h : OneLine variant.name) :
    OneLines variant.lines := by
  simp only [EmptyClass.lines, layoutSymbol, opening, closing, oneLines_cons, oneLines_nil,
    oneLine_append, h, and_true]
  and_intros <;> exact oneLine_ofList (by decide)

namespace VariantPayload

variable {payload : VariantPayload}

theorem oneLine_parameters (h : ∀ field ∈ payload.fields, field.Unbroken) :
    OneLine payload.parameters := by
  have hrequired : OneLine "required " := by decide
  have hblank : OneLine " " := by decide
  have hcomma : OneLine ", " := by decide
  have hopening : OneLine "\x7b" := by decide
  have hclosing : OneLine "\x7d" := by decide
  have hfield (field) (hfield : field ∈ payload.fields) :
      OneLine (field.targetType ++ " " ++ field.name) :=
    ((h field hfield).targetType.append hblank).append (h field hfield).name
  unfold parameters
  split
  case h_1 | h_3 => exact oneLine_ofList (by decide)
  case h_2 fields => exact Text.oneLine_intercalate hcomma (oneLines_map hfield)
  case h_4 fields _ =>
    have hparameters := Text.oneLine_intercalate hcomma
      (oneLines_map fun field hmem => hrequired.append (hfield field hmem))
    simp only [← String.append_assoc] at hparameters
    exact (hopening.append hparameters).append hclosing

theorem oneLine_arguments (h : ∀ field ∈ payload.fields, field.Unbroken) :
    OneLine payload.arguments := by
  have hcolon : OneLine ": " := by decide
  have hcomma : OneLine ", " := by decide
  refine Text.oneLine_intercalate hcomma (oneLines_map fun field hfield => ?_)
  exact ((h field hfield).name.append hcolon).append (h field hfield).name

end VariantPayload

/-- What is made up in a class for one of several variants is on one line. -/
structure EnumClass.Unbroken (enum : EnumClass) : Prop where
  name : OneLine enum.name
  variants : ∀ variant ∈ enum.variants, variant.Unbroken

namespace EnumClass

variable {enum : EnumClass}

theorem oneLines_factoryLines {name : String} (hname : OneLine name) {variant : VariantManifest}
    (h : variant.Unbroken) : OneLines (factoryLines name variant) := by
  have hindex := oneLine_toString variant.index
  unfold factoryLines
  generalize toString variant.index = index at hindex
  simp only [opening, closing, oneLines_cons, oneLines_nil, oneLine_append, hname, h.name,
    h.factory, VariantPayload.oneLine_parameters h.fields,
    VariantPayload.oneLine_arguments h.fields, hindex, and_true]
  and_intros <;> exact oneLine_ofList (by decide)

theorem Unbroken.oneLine_usage (h : enum.Unbroken) : OneLine enum.usage := by
  have hcolon : OneLine ": " := by decide
  have hcomma : OneLine ", " := by decide
  have hcall : OneLine "()" := by decide
  have hlayouts : OneLine (", ".intercalate (enum.variants.map fun variant =>
      variant.name ++ ": " ++ layoutSymbol variant.name ++ "()")) := by
    refine Text.oneLine_intercalate hcomma (oneLines_map fun variant hvariant => ?_)
    have hvariant := (h.variants variant hvariant).name
    exact ((hvariant.append hcolon).append (oneLine_layoutSymbol hvariant)).append hcall
  have hfront : OneLine "// Usage: @BEnum<" := by decide
  have hopening : OneLine ">(\x7b" := by decide
  have hclosing : OneLine "\x7d) required " := by decide
  have hvalue : OneLine " value," := by decide
  exact (((((hfront.append h.name).append hopening).append hlayouts).append hclosing).append
    h.name).append hvalue

theorem Unbroken.embeds_lines (h : enum.Unbroken) : Embeds enum.lines enum.docs := by
  have hfactories : OneLines (enum.variants.flatMap (factoryLines enum.name)) :=
    Text.oneLines_flatMap fun variant hvariant =>
      oneLines_factoryLines h.name (h.variants variant hvariant)
  have hdocs : Embeds (docLines enum.docs "") enum.docs := embeds_docLines (by decide) _
  unfold lines
  refine ((hdocs.code ?_).code hfactories).code ?_
  all_goals
    simp only [opening, closing, oneLines_cons, oneLines_nil, oneLine_append, h.name,
      h.oneLine_usage, Text.oneLine_upperCamel, and_true]
    and_intros <;> exact oneLine_ofList (by decide)

end EnumClass

/-! ## Functions that make instructions -/

/-- The type and the name of a parameter are on one line. -/
structure BuilderParameter.Unbroken (parameter : BuilderParameter) : Prop where
  type : OneLine parameter.type
  name : OneLine parameter.name

theorem BuilderParameter.Unbroken.embeds_lines {parameter : BuilderParameter}
    (h : parameter.Unbroken) : Embeds parameter.lines parameter.docs := by
  unfold lines
  refine (embeds_docLines (by decide) _).code ?_
  split
  all_goals
    simp only [oneLines_cons, oneLines_nil, oneLine_append, h.type, h.name, and_true]
    and_intros <;> exact oneLine_ofList (by decide)

/-- The name of a local variable and its parameter are on one line. -/
structure BuilderLocal.Unbroken (entry : BuilderLocal) : Prop where
  name : OneLine entry.name
  parameter : OneLine entry.parameter

theorem oneLine_resolvedName (name : String) : OneLine (resolvedName name) := by
  have hresolved : OneLine "resolved" := by decide
  exact hresolved.append (Text.oneLine_upperCamel name)

theorem oneLine_addressSymbol : OneLine addressSymbol := oneLine_ofList (by decide)

theorem embeds_derivationCall {head : String} (hhead : OneLine head) (seeds : List String)
    (program : String) : Embeds (derivationCall head seeds program)
      (seeds.map (· ++ ",") ++ [program ++ ","]) := by
  have hblanks : OneLine "      " := by decide
  have hlabel : OneLine "    programId: " := by decide
  have hclosing : OneLine "    ]," := by decide
  have hend : OneLine "  );" := by decide
  have hfront : OneLines ["  " ++ head ++ " " ++ addressSymbol ++ ".findProgramAddress(",
      "    seeds: ["] := by
    simp only [oneLines_cons, oneLines_nil, oneLine_append, hhead, oneLine_addressSymbol, and_true]
    and_intros <;> exact oneLine_ofList (by decide)
  have hseeds : Embeds (seeds.map fun seed => "      " ++ (seed ++ ",")) (seeds.map (· ++ ",")) :=
    embeds_map fun _ _ => hblanks
  have hprogram := embeds_singleton hlabel (program ++ ",")
  have hback := ((embeds_code (oneLines_cons.mpr ⟨hclosing, oneLines_nil⟩)).append hprogram).code
    (oneLines_cons.mpr ⟨hend, oneLines_nil⟩)
  have h := ((embeds_code hfront).append hseeds).append hback
  unfold derivationCall
  simp only [String.append_assoc] at h ⊢
  exact h

namespace BuilderAccount

theorem oneLine_parameter (account : BuilderAccount) : OneLine account.parameter :=
  oneLine_memberName account.account.name

theorem oneLine_identifier (account : BuilderAccount) : OneLine account.identifier := by
  unfold identifier
  split
  · exact oneLine_resolvedName _
  · exact account.oneLine_parameter

theorem oneLine_identifierOf (accounts : List BuilderAccount) (name : String) :
    OneLine ((identifierOf? accounts name).getD "") := by
  unfold identifierOf?
  cases accounts.reverse.find? (·.account.name == name) with
  | none => exact oneLine_ofList (by decide)
  | some account => exact account.oneLine_identifier

theorem unbroken_builderParameter (account : BuilderAccount) :
    account.builderParameter.Unbroken := by
  refine ⟨?_, ?_⟩
  · simpa only [builderParameter] using oneLine_addressSymbol
  · simpa only [builderParameter] using account.oneLine_parameter

/-- The local of an account that is filled in stands for its parameter. -/
theorem names_of_local {account : BuilderAccount} {entry : BuilderLocal}
    (h : account.plainLocal? = some entry ∨ account.derivedLocal? = some entry) :
    entry.name = resolvedName account.parameter ∧ entry.parameter = account.parameter := by
  obtain ⟨account, default⟩ := account
  rcases h with h | h <;> cases default <;> cases h <;> simp only [and_self]

theorem unbroken_of_local {account : BuilderAccount} {entry : BuilderLocal}
    (h : account.plainLocal? = some entry ∨ account.derivedLocal? = some entry) :
    entry.Unbroken := by
  obtain ⟨hname, hparameter⟩ := names_of_local h
  refine ⟨?_, ?_⟩
  · rw [hname]
    exact oneLine_resolvedName _
  · rw [hparameter]
    exact account.oneLine_parameter

end BuilderAccount

namespace Builder

/-- The texts that are put into the statement that sets a local variable. -/
def localProse (builder : Builder) (entry : BuilderLocal) : List String :=
  match entry.fallback with
  | .address term => [term.render ++ ";"]
  | .derived derivation program =>
    let seeds := derivation.expressions resolvedProgram (BuilderAccount.spell builder.accounts)
    seeds.map (· ++ ",") ++ [program.render ++ ","]

/-- The texts that are put into a builder as they are. -/
def texts (builder : Builder) : List String :=
  builder.prose ++ builder.parameters.flatMap BuilderParameter.docs ++
    builder.locals.flatMap builder.localProse

variable (builder : Builder)

theorem unbroken_parameters : ∀ parameter ∈ builder.parameters, parameter.Unbroken := by
  have hprogram : OneLine programVariable := by decide
  have hargument : OneLine argumentsParameter := by decide
  have hdata : OneLine "InstructionData" := by decide
  intro parameter hparameter
  unfold parameters argumentParameters at hparameter
  rcases List.mem_append.mp hparameter with hparameter | hparameter
  · rcases List.mem_append.mp hparameter with hparameter | hparameter
    · obtain ⟨account, -, rfl⟩ := List.mem_map.mp hparameter
      exact account.unbroken_builderParameter
    · split at hparameter
      · obtain rfl := List.mem_singleton.mp hparameter
        exact ⟨(Text.oneLine_upperCamel _).append hdata, hargument⟩
      · cases hparameter
  · obtain rfl := List.mem_singleton.mp hparameter
    exact ⟨oneLine_addressSymbol, hprogram⟩

theorem unbroken_locals : ∀ entry ∈ builder.locals, entry.Unbroken := by
  have hprogram : OneLine resolvedProgram := by decide
  have hvariable : OneLine programVariable := by decide
  intro entry hentry
  rcases List.mem_cons.mp hentry with rfl | hentry
  · exact ⟨hprogram, hvariable⟩
  rcases List.mem_append.mp hentry with hentry | hentry
  · obtain ⟨account, -, hentry⟩ := List.mem_filterMap.mp hentry
    exact BuilderAccount.unbroken_of_local (.inl hentry)
  · obtain ⟨account, -, hentry⟩ := List.mem_filterMap.mp hentry
    exact BuilderAccount.unbroken_of_local (.inr hentry)

theorem embeds_docs : Embeds builder.docs builder.prose := by
  have hfront : OneLine "/// Creates a " := by decide
  have hindent : OneLine "" := by decide
  unfold docs prose
  split
  · rw [String.append_assoc]
    exact embeds_singleton hfront _
  · exact embeds_docLines hindent _

theorem embeds_headLines :
    Embeds builder.headLines (builder.parameters.flatMap BuilderParameter.docs) := by
  have hparameters : Embeds (builder.parameters.flatMap BuilderParameter.lines)
      (builder.parameters.flatMap BuilderParameter.docs) :=
    embeds_flatMap fun parameter hparameter =>
      (builder.unbroken_parameters parameter hparameter).embeds_lines
  unfold headLines
  refine ((embeds_code ?_).append hparameters).code ?_
  all_goals
    split
    all_goals
      simp only [name, instructionFunction, opening, oneLines_cons, oneLines_nil, oneLine_append,
        Text.oneLine_lowerCamel, and_true, true_and]
      and_intros <;> exact oneLine_ofList (by decide)

theorem embeds_localLines {entry : BuilderLocal} (h : entry.Unbroken) :
    Embeds (builder.localLines entry) (builder.localProse entry) := by
  obtain ⟨name, parameter, fallback⟩ := entry
  obtain ⟨hname, hparameter⟩ := h
  have hawait : OneLine " await" := by decide
  have hindent : OneLine "  " := by decide
  have hblank : OneLine " " := by decide
  have hhead : OneLine ("final " ++ name ++ " = " ++ parameter ++ " ??") := by
    simp only [oneLine_append, hname, hparameter, and_true]
    and_intros <;> exact oneLine_ofList (by decide)
  cases fallback with
  | address term =>
    have hline := embeds_singleton ((hindent.append hhead).append hblank) (term.render ++ ";")
    rwa [← String.append_assoc] at hline
  | derived derivation program => exact embeds_derivationCall (hhead.append hawait) _ _

theorem oneLines_accountLines (account : BuilderAccount) :
    OneLines (builder.accountLines account) := by
  have hflag (flag : Bool) : OneLine (toString flag) := by
    cases flag <;> exact oneLine_ofList (by decide)
  simp only [accountLines, oneLines_cons, oneLines_nil, oneLine_append, hflag,
    BuilderAccount.oneLine_identifierOf, and_true]
  and_intros <;> exact oneLine_ofList (by decide)

theorem oneLines_accountsLines : OneLines builder.accountsLines := by
  have haccounts : OneLines (builder.accounts.flatMap builder.accountLines) :=
    Text.oneLines_flatMap fun account _ => builder.oneLines_accountLines account
  unfold accountsLines accountsVariable
  split
  all_goals
    simp only [oneLines_append, oneLines_cons, oneLines_nil, oneLine_append, haccounts, and_true]
    and_intros <;> exact oneLine_ofList (by decide)

theorem oneLine_dataLine : OneLine builder.dataLine := by
  unfold dataLine dataVariable argumentsParameter
  split
  all_goals
    simp only [oneLine_append, oneLine_byteListLiteral, and_true]
    and_intros <;> exact oneLine_ofList (by decide)

theorem embeds_lines : Embeds builder.lines builder.texts := by
  have hlocals : Embeds (builder.locals.flatMap builder.localLines)
      (builder.locals.flatMap builder.localProse) :=
    embeds_flatMap fun entry hentry =>
      builder.embeds_localLines (builder.unbroken_locals entry hentry)
  unfold lines texts
  refine ((((builder.embeds_docs.append builder.embeds_headLines).append hlocals).code ?_).code
    builder.oneLines_accountsLines).code ?_
  all_goals
    simp only [resolvedProgram, accountsVariable, dataVariable, closing, oneLines_cons,
      oneLines_nil, oneLine_append, builder.oneLine_dataLine, and_true, true_and]
    and_intros <;> exact oneLine_ofList (by decide)

end Builder

/-! ## Items -/

/-- What is made up in an item is on one line. Only what stands on pages of accounts, instructions
and defined types is asked for. -/
def Item.Unbroken : Item → Prop
  | .record cls => cls.Unbroken
  | .empty variant => OneLine variant.name
  | .enum cls => cls.Unbroken
  | .synonym _ name target => OneLine name ∧ OneLine target
  | .builder _ => True
  | .helper _ | .code _ => False

/-- The texts that are put into an item as they are. -/
def Item.prose : Item → List String
  | .record cls => cls.prose
  | .empty _ => []
  | .enum cls => cls.docs
  | .synonym docs _ _ => docs
  | .builder function => function.texts
  | .helper _ | .code _ => []

/-- **The lines of an item are continued by what continues its prose**, and by nothing else. -/
theorem Item.Unbroken.embeds_lines {item : Item} (h : item.Unbroken) :
    Embeds item.lines item.prose := by
  have hindent : OneLine "" := by decide
  cases item with
  | record record => exact RecordClass.Unbroken.embeds_lines h
  | empty variant => exact embeds_code (EmptyClass.oneLines_lines h)
  | enum enum => exact EnumClass.Unbroken.embeds_lines h
  | synonym docs name target =>
    obtain ⟨hname, htarget⟩ := h
    refine (embeds_docLines hindent docs).code ?_
    simp only [oneLines_cons, oneLines_nil, oneLine_append, hname, htarget, and_true]
    and_intros <;> exact oneLine_ofList (by decide)
  | builder builder => exact builder.embeds_lines
  | helper | code => exact h.elim

theorem RecordClass.unbroken_plain {name : String} (hname : OneLine name) (docs : List String)
    {fields : List FieldManifest} (h : ∀ field ∈ fields, field.Unbroken) :
    (plain name docs fields).Unbroken := by
  refine ⟨hname, h, oneLines_nil, oneLines_nil, ?_, List.forall_mem_nil _⟩
  exact oneLines_cons.mpr ⟨oneLine_readCall hname (by decide), oneLines_nil⟩

theorem VariantManifest.Unbroken.unbroken_item {variant : VariantManifest} (h : variant.Unbroken) :
    (variantItem variant).Unbroken := by
  unfold variantItem
  split
  · exact h.name
  · exact RecordClass.unbroken_plain h.name [] h.fields

theorem Declaration.Unbroken.unbroken_items {declaration : Declaration}
    (h : declaration.Unbroken) : ∀ item ∈ declarationItems declaration, item.Unbroken := by
  obtain ⟨name, shape⟩ := declaration
  obtain ⟨hname, hshape⟩ := h
  cases shape with
  | plain => exact List.forall_mem_nil _
  | struct fields =>
    exact List.forall_mem_singleton.mpr (RecordClass.unbroken_plain hname [] hshape)
  | enum size variants =>
    refine List.forall_mem_cons.mpr ⟨⟨hname, hshape⟩, List.forall_mem_map.mpr fun variant h => ?_⟩
    exact (hshape variant h).unbroken_item

/-- The classes beside a type have no line ends apart from the documentation. -/
theorem Manifest.Unbroken.unbroken_items {manifest : Manifest} (h : manifest.Unbroken) :
    ∀ item ∈ manifest.declarations.flatMap declarationItems, item.Unbroken :=
  List.forall_mem_flatMap.mpr fun declaration hdeclaration =>
    (h.declarations declaration hdeclaration).unbroken_items

end DartClient
