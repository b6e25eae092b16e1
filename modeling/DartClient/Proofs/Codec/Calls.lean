import DartClient.Proofs.Codec.Mentions
import DartClient.Proofs.Codec.Unpacked
import DartClient.Proofs.Text.Legible

/-!
# Expressions as calls

The expression that names a layout is a call: a name and, in parentheses, a row of arguments, which
are sizes, expressions and rows of expressions in brackets. The name tells the kind of the codec and
the style in which its length is stored. A length in the usual format goes without saying, a format
of its own or a fixed length is the first argument. So a call stands for one codec, as far as typed
lists are taken as lists.

Classes and types of unknown kinds are not called by their parts, and have no calls here.

## Main definitions

* `Codec.Nameless`: codecs without classes and types of unknown kinds.
* `Call`, `Codec.call?`: the call that names a codec.
* `Call.codec?`: the codec that a call stands for.
* `Call.spelling`: how a call is spelled.

## Main results

* `Codec.codec?_unpacked`: a call stands for one codec.
* `Codec.spelling_eq_call`: the expression is spelled as its call.
-/

namespace DartClient

open Idl (NumberFormat)
open Text (listed)

/-! ## Codecs without names -/

namespace Codec

/-- Whether the codec has a name: a class, or a type of an unknown kind. -/
def isNamed : Codec → Bool
  | .struct _ _ | .enum _ _ _ | .defined _ _ | .unknown _ => true
  | _ => false

/-- The codec holds no class and no type of an unknown kind. -/
def Nameless : Codec → Prop := Throughout fun codec => codec.isNamed = false

theorem nameless_number (format : NumberFormat) : Nameless (.number format) :=
  .intro rfl (List.forall_mem_nil _)

end Codec

/-! ## Calls -/

/-- The part of a name that tells how a length or a flag is stored. -/
inductive CallStyle where
  /-- In the usual format. -/
  | default
  /-- In a format that is an argument. -/
  | prefixed
  /-- Not at all, since it is always the same. -/
  | fixed
  /-- Not at all, since the value takes the rest of the input. -/
  | remainder
  deriving DecidableEq

/-- The kinds of codec whose names have a style. -/
inductive StyledKind where
  | bool | string | bytes | option | array | set | map
  deriving DecidableEq

/-- The names of calls. -/
inductive Callee where
  | number (format : NumberFormat)
  | publicKey
  | tuple
  | sizePrefixed
  | fixedSize
  | styled (style : CallStyle) (kind : StyledKind)
  deriving DecidableEq

/-- How a style is spelled. -/
def CallStyle.name : CallStyle → String
  | default => ""
  | prefixed => "Prefixed"
  | fixed => "Fixed"
  | remainder => "Remainder"

/-- How a kind is spelled. -/
def StyledKind.name : StyledKind → String
  | bool => "Bool"
  | string => "String"
  | bytes => "Bytes"
  | option => "Option"
  | array => "Array"
  | set => "Set"
  | map => "Map"

/-- How the name of a call is spelled. -/
def Callee.name : Callee → List Char
  | number format => (numberBorshType format).toList.takeWhile (· != '(')
  | publicKey => "BPublicKey".toList
  | tuple => "BTuple".toList
  | sizePrefixed => "BSizePrefixed".toList
  | fixedSize => "BFixedSize".toList
  | styled style kind => 'B' :: (style.name.toList ++ kind.name.toList)

/-- All names of calls. -/
def Callee.all : List Callee :=
  [publicKey, tuple, sizePrefixed, fixedSize] ++ NumberFormat.all.map number ++
    [CallStyle.default, .prefixed, .fixed, .remainder].flatMap fun style =>
      [StyledKind.bool, .string, .bytes, .option, .array, .set, .map].map (styled style)

/-- An argument of a call. -/
inductive CallArgument where
  /-- A number of items or bytes. -/
  | size (n : Nat)
  /-- A codec. -/
  | item (codec : Codec)
  /-- Codecs in brackets. -/
  | row (items : List Codec)

/-- The call of a name with arguments. -/
structure Call where
  /-- The name. -/
  callee : Callee
  /-- The arguments. -/
  arguments : List CallArgument

/-- The style of a length, given the format that goes without saying. -/
def Length.style (usual : NumberFormat) : Length → CallStyle
  | .prefixed format => if format = usual then .default else .prefixed
  | .fixed _ => .fixed
  | .remainder => .remainder

/-- The argument that tells a length, unless it goes without saying. -/
def Length.arguments (usual : NumberFormat) : Length → List CallArgument
  | .prefixed format => if format = usual then [] else [.item (.number format)]
  | .fixed n => [.size n]
  | .remainder => []

namespace StyledKind

/-- The format of a length or flag that goes without saying. -/
def usual : StyledKind → NumberFormat
  | .bool | .option => .u8
  | _ => .u32

/-- The call of a kind with a length. The length of a flag or an option is that of the flag. -/
def call (kind : StyledKind) (length : Length) (arguments : List CallArgument) : Call :=
  ⟨.styled (length.style kind.usual) kind, length.arguments kind.usual ++ arguments⟩

theorem call_default (kind : StyledKind) {format : NumberFormat} (h : format = kind.usual)
    (arguments : List CallArgument) :
    kind.call (.prefixed format) arguments = ⟨.styled .default kind, arguments⟩ := by
  rw [call, Length.style, Length.arguments, if_pos h, if_pos h, List.nil_append]

theorem call_prefixed (kind : StyledKind) {format : NumberFormat} (h : format ≠ kind.usual)
    (arguments : List CallArgument) :
    kind.call (.prefixed format) arguments =
      ⟨.styled .prefixed kind, .item (.number format) :: arguments⟩ := by
  rw [call, Length.style, Length.arguments, if_neg h, if_neg h, List.singleton_append]

end StyledKind

/-- The call that names a codec, unless it is named by a class. -/
def Codec.call? : Codec → Option Call
  | .number format => some ⟨.number format, []⟩
  | .boolean format => some (StyledKind.bool.call (.prefixed format) [])
  | .string length => some (StyledKind.string.call length [])
  | .bytes length => some (StyledKind.bytes.call length [])
  | .publicKey => some ⟨.publicKey, []⟩
  | .option item flag true =>
    some ⟨.styled .fixed .option, [.item (.number flag), .item item]⟩
  | .option item flag false => some (StyledKind.option.call (.prefixed flag) [.item item])
  | .list item count => some (StyledKind.array.call count [.item item])
  | .typedArray item count => some (StyledKind.array.call (.fixed count) [.item item])
  | .set item count => some (StyledKind.set.call count [.item item])
  | .map key value count => some (StyledKind.map.call count [.item key, .item value])
  | .tuple items => some ⟨.tuple, [.row items]⟩
  | .sizePrefixed inner width => some ⟨.sizePrefixed, [.item (.number width), .item inner]⟩
  | .fixedSize inner size => some ⟨.fixedSize, [.size size, .item inner]⟩
  | .struct _ _ | .enum _ _ _ | .defined _ _ | .unknown _ => none

/-! ## What a call stands for -/

/-- The length that a style and the first arguments tell, and the arguments behind it. -/
def CallStyle.length? (usual : NumberFormat) :
    CallStyle → List CallArgument → Option (Length × List CallArgument)
  | .default, arguments => some (.prefixed usual, arguments)
  | .prefixed, .item (.number format) :: arguments => some (.prefixed format, arguments)
  | .fixed, .size n :: arguments => some (.fixed n, arguments)
  | .remainder, arguments => some (.remainder, arguments)
  | _, _ => none

/-- The codec of a kind with a length and arguments. -/
def StyledKind.codec? : StyledKind → Length → List CallArgument → Option Codec
  | .string, length, [] => some (.string length)
  | .bytes, length, [] => some (.bytes length)
  | .array, length, [.item item] => some (.list item length)
  | .set, length, [.item item] => some (.set item length)
  | .map, length, [.item key, .item value] => some (.map key value length)
  | .bool, .prefixed format, [] => some (.boolean format)
  | .option, .prefixed flag, [.item item] => some (.option item flag false)
  | _, _, _ => none

/-- The fixed option with these arguments. Its flag stands where a fixed length does. -/
def fixedOption? : List CallArgument → Option Codec
  | [.item (.number flag), .item item] => some (.option item flag true)
  | _ => none

/-- The codec that a call stands for; arrays are lists. -/
def Call.codec? : Call → Option Codec
  | ⟨.number format, _⟩ => some (.number format)
  | ⟨.publicKey, _⟩ => some .publicKey
  | ⟨.tuple, [.row items]⟩ => some (.tuple items)
  | ⟨.sizePrefixed, [.item (.number width), .item inner]⟩ => some (.sizePrefixed inner width)
  | ⟨.fixedSize, [.size size, .item inner]⟩ => some (.fixedSize inner size)
  | ⟨.styled style kind, arguments⟩ =>
    match style.length? kind.usual arguments with
    | some (length, arguments) => kind.codec? length arguments
    | none => fixedOption? arguments
  | _ => none

/-- The argument with typed lists as lists. -/
def CallArgument.unpacked : CallArgument → CallArgument
  | .size n => .size n
  | .item codec => .item codec.unpacked
  | .row items => .row (items.map Codec.unpacked)

/-- The call with typed lists as lists. -/
def Call.unpacked (call : Call) : Call := ⟨call.callee, call.arguments.map CallArgument.unpacked⟩

theorem Length.style_length? (usual : NumberFormat) (length : Length)
    (arguments : List CallArgument) :
    (length.style usual).length? usual
        ((length.arguments usual ++ arguments).map CallArgument.unpacked) =
      some (length, arguments.map CallArgument.unpacked) := by
  cases length with
  | prefixed format =>
    rw [Length.style, Length.arguments]
    split
    · rename_i hformat
      subst hformat
      rfl
    · rfl
  | fixed n => rfl
  | remainder => rfl

theorem StyledKind.codec?_call (kind : StyledKind) (length : Length)
    (arguments : List CallArgument) :
    (kind.call length arguments).unpacked.codec? =
      kind.codec? length (arguments.map CallArgument.unpacked) := by
  rw [StyledKind.call, Call.unpacked, Call.codec?, Length.style_length?]

namespace Codec

/-- **A call stands for one codec**, if typed lists are taken as lists. -/
theorem codec?_unpacked {codec : Codec} {call : Call} (h : codec.call? = some call) :
    call.unpacked.codec? = some codec.unpacked := by
  cases codec
  case struct | enum | defined | unknown => cases h
  case option item flag isFixed =>
    -- A fixed option has a flag where the style calls for a size, so no length is found.
    cases isFixed <;> obtain rfl := Option.some.inj h
    · exact StyledKind.codec?_call .option (.prefixed flag) _
    · rfl
  all_goals obtain rfl := Option.some.inj h
  case boolean format => exact StyledKind.codec?_call .bool (.prefixed format) _
  case string length => exact StyledKind.codec?_call .string length _
  case bytes length => exact StyledKind.codec?_call .bytes length _
  case list item count => exact StyledKind.codec?_call .array count _
  case typedArray item count => exact StyledKind.codec?_call .array (.fixed count) _
  case set item count => exact StyledKind.codec?_call .set count _
  case map key value count => exact StyledKind.codec?_call .map count _
  case tuple items => rw [unpacked, unpackedItems_eq_map]; rfl
  all_goals rfl

end Codec

/-! ## Spellings -/

/-- How the expression that names a codec is spelled. -/
def Codec.spelling (codec : Codec) : List Char := (codec.borshType?.getD "").toList

/-- How an argument is spelled. -/
def CallArgument.spelling : CallArgument → List Char
  | .size n => (toString n).toList
  | .item codec => codec.spelling
  | .row items => '[' :: (listed (items.map Codec.spelling) ++ [']'])

/-- How a call is spelled. -/
def Call.spelling (call : Call) : List Char :=
  call.callee.name ++ '(' :: (listed (call.arguments.map CallArgument.spelling) ++ [')'])

theorem Callee.name_styled (style : CallStyle) (kind : StyledKind) :
    (styled style kind).name = 'B' :: (style.name.toList ++ kind.name.toList) := rfl

/-- A call is spelled as its name, an opening parenthesis, and its arguments in a row. -/
theorem toList_call (opening : String) (callee : Callee)
    (hopening : opening.toList = callee.name ++ ['(']) (texts : List String)
    (arguments : List CallArgument)
    (h : texts.map String.toList = arguments.map CallArgument.spelling) :
    (opening ++ ", ".intercalate texts ++ ")").toList = Call.spelling ⟨callee, arguments⟩ := by
  rw [String.toList_append, String.toList_append, String.toList_intercalate, hopening, h,
    List.append_assoc, List.append_assoc, Call.spelling]
  rfl

theorem toList_call_single (opening : String) (callee : Callee)
    (hopening : opening.toList = callee.name ++ ['(']) {text : String} {argument : CallArgument}
    (h : text.toList = argument.spelling) :
    (opening ++ text ++ ")").toList = Call.spelling ⟨callee, [argument]⟩ := by
  have hcall := toList_call opening callee hopening [text] [argument] (by simp [h])
  rwa [String.intercalate_singleton] at hcall

theorem toList_call_pair (opening : String) (callee : Callee)
    (hopening : opening.toList = callee.name ++ ['(']) {first second : String}
    {argument argument' : CallArgument} (hfirst : first.toList = argument.spelling)
    (hsecond : second.toList = argument'.spelling) :
    (opening ++ first ++ ", " ++ second ++ ")").toList =
      Call.spelling ⟨callee, [argument, argument']⟩ := by
  have hcall := toList_call opening callee hopening [first, second] [argument, argument']
    (by simp [hfirst, hsecond])
  rw [String.intercalate_cons_cons, String.intercalate_singleton] at hcall
  simpa only [String.append_assoc] using hcall

theorem toList_numberBorshType (format : NumberFormat) :
    (numberBorshType format).toList = Call.spelling ⟨.number format, []⟩ := by
  cases format <;> decide +kernel

/-- A call whose name has a style. -/
theorem toList_styled (style : CallStyle) (kind : StyledKind) (texts : List String)
    (arguments : List CallArgument)
    (h : texts.map String.toList = arguments.map CallArgument.spelling) :
    ("B" ++ style.name ++ kind.name ++ "(" ++ ", ".intercalate texts ++ ")").toList =
      Call.spelling ⟨.styled style kind, arguments⟩ := by
  have hinitial : "B".toList = ['B'] := rfl
  have hopening : "(".toList = ['('] := rfl
  refine toList_call _ _ ?_ texts arguments h
  simp only [String.toList_append, hinitial, hopening, Callee.name_styled, List.cons_append,
    List.nil_append]

theorem toList_lengthBorshType (kind : StyledKind) (hkind : kind.usual = .u32) (length : Length)
    {texts : List String} {arguments : List CallArgument}
    (h : texts.map String.toList = arguments.map CallArgument.spelling) :
    (lengthBorshType kind.name length texts).toList = (kind.call length arguments).spelling := by
  unfold lengthBorshType
  split
  case h_1 =>
    rw [kind.call_default hkind.symm]
    exact toList_styled .default kind texts arguments h
  case h_2 format hformat =>
    rw [kind.call_prefixed (hkind ▸ hformat)]
    refine toList_styled .prefixed kind _ (.item (.number format) :: arguments) ?_
    rw [List.map_cons, List.map_cons, h]
    rfl
  case h_3 size =>
    refine toList_styled .fixed kind _ (.size size :: arguments) ?_
    rw [List.map_cons, List.map_cons, h, CallArgument.spelling]
  case h_4 => exact toList_styled .remainder kind texts arguments h

/-- The expressions of items in brackets. -/
theorem toList_row {items : List Codec} {texts : List String}
    (h : itemBorshTypes? items = some texts) :
    ("[" ++ ", ".intercalate texts ++ "]").toList = (CallArgument.row items).spelling := by
  have htexts : texts = items.map fun item => item.borshType?.getD "" :=
    eq_map_of_itemBorshTypes? h fun item _ text hitem => by rw [hitem, Option.getD_some]
  have hspellings : texts.map String.toList = items.map Codec.spelling := by
    rw [htexts, List.map_map]
    rfl
  rw [String.toList_append, String.toList_append, String.toList_intercalate, hspellings,
    CallArgument.spelling]
  rfl

namespace Codec

theorem toList_eq_spelling {codec : Codec} {text : String} (h : codec.borshType? = some text) :
    text.toList = codec.spelling := by
  rw [spelling, h, Option.getD_some]

/-- The expression of an option, where that of the item is given. -/
theorem toList_option {item : Codec} {flag : NumberFormat} {isFixed : Bool} {call : Call}
    {inner text : String} (hinner : inner.toList = item.spelling)
    (hcall : (option item flag isFixed).call? = some call)
    (h : (if isFixed then some ("BFixedOption(" ++ numberBorshType flag ++ ", " ++ inner ++ ")")
      else if flag = .u8 then some ("BOption(" ++ inner ++ ")")
      else some ("BPrefixedOption(" ++ numberBorshType flag ++ ", " ++ inner ++ ")")) = some text) :
    text.toList = call.spelling := by
  cases isFixed with
  | true =>
    obtain rfl := Option.some.inj hcall
    obtain rfl := Option.some.inj h
    exact toList_call_pair "BFixedOption(" (.styled .fixed .option) (by decide) rfl hinner
  | false =>
    obtain rfl := Option.some.inj hcall
    rw [if_neg Bool.false_ne_true] at h
    by_cases hflag : flag = .u8
    · rw [if_pos hflag] at h
      obtain rfl := Option.some.inj h
      rw [StyledKind.call_default .option hflag]
      exact toList_call_single "BOption(" (.styled .default .option) (by decide) hinner
    · rw [if_neg hflag] at h
      obtain rfl := Option.some.inj h
      rw [StyledKind.call_prefixed .option hflag]
      exact toList_call_pair "BPrefixedOption(" (.styled .prefixed .option) (by decide) rfl hinner

/-- **The expression is spelled as its call.** -/
theorem spelling_eq_call {codec : Codec} {call : Call} {text : String}
    (hcall : codec.call? = some call) (h : codec.borshType? = some text) :
    codec.spelling = call.spelling := by
  rw [← toList_eq_spelling h]
  cases codec
  case struct | enum | defined | unknown => cases hcall
  case option item flag isFixed =>
    obtain ⟨inner, hinner, h⟩ := Option.bind_eq_some_iff.mp h
    exact toList_option (toList_eq_spelling hinner) hcall h
  all_goals obtain rfl := Option.some.inj hcall
  case number format =>
    obtain rfl := Option.some.inj h
    exact toList_numberBorshType format
  case boolean format => cases format <;> obtain rfl := Option.some.inj h <;> decide +kernel
  case string length =>
    obtain rfl := Option.some.inj h
    exact toList_lengthBorshType .string rfl length rfl
  case bytes length =>
    obtain rfl := Option.some.inj h
    exact toList_lengthBorshType .bytes rfl length rfl
  case publicKey =>
    obtain rfl := Option.some.inj h
    rfl
  case map key value count =>
    obtain ⟨first, hfirst, htext⟩ := Option.bind_eq_some_iff.mp h
    obtain ⟨second, hsecond, htext⟩ := Option.bind_eq_some_iff.mp htext
    obtain rfl := Option.some.inj htext
    refine toList_lengthBorshType .map rfl count ?_
    simp [CallArgument.spelling, toList_eq_spelling hfirst, toList_eq_spelling hsecond]
  case tuple items =>
    obtain ⟨texts, htexts, htext⟩ := Option.bind_eq_some_iff.mp h
    obtain rfl := Option.some.inj htext
    have hcall := toList_call_single "BTuple(" .tuple (by decide) (toList_row htexts)
    -- The only argument is a row in brackets, which are spelled with the parentheses.
    have hopening : "BTuple([" = "BTuple(" ++ "[" := rfl
    have hclosing : "])" = "]" ++ ")" := rfl
    simpa only [hopening, hclosing, String.append_assoc] using hcall
  -- What is left holds one codec, whose expression is the last argument.
  all_goals
    obtain ⟨inner, hinner, htext⟩ := Option.bind_eq_some_iff.mp h
    obtain rfl := Option.some.inj htext
    have hspelling := toList_eq_spelling hinner
  case list item count =>
    exact toList_lengthBorshType .array rfl count (by simp [CallArgument.spelling, hspelling])
  case set item count =>
    exact toList_lengthBorshType .set rfl count (by simp [CallArgument.spelling, hspelling])
  case typedArray item count =>
    exact toList_call_pair _ (.styled .fixed .array) (by decide) rfl hspelling
  case sizePrefixed inner width => exact toList_call_pair _ .sizePrefixed (by decide) rfl hspelling
  case fixedSize inner size => exact toList_call_pair _ .fixedSize (by decide) rfl hspelling

/-- Items with expressions have expressions in a row. -/
theorem exists_itemBorshTypes? : ∀ {items : List Codec},
    (∀ item ∈ items, ∃ text, item.borshType? = some text) →
      ∃ texts, itemBorshTypes? items = some texts
  | [], _ => ⟨[], rfl⟩
  | item :: items, h => by
    obtain ⟨text, htext⟩ := h item List.mem_cons_self
    obtain ⟨texts, htexts⟩ :=
      exists_itemBorshTypes? fun other hother => h other (List.mem_cons_of_mem item hother)
    exact ⟨text :: texts, by rw [itemBorshTypes?, htext, htexts]; rfl⟩

/-- A codec without names has an expression. -/
theorem exists_borshType? {codec : Codec} (h : codec.Nameless) :
    ∃ text, codec.borshType? = some text := by
  induction codec using induction_parts with
  | step codec ih =>
  have hparts : ∀ part ∈ codec.parts, ∃ text, part.borshType? = some text :=
    fun part hpart => ih part hpart (h.of_part hpart)
  cases codec
  case struct | enum | defined | unknown => cases h.own
  case boolean format => cases format <;> exact ⟨_, rfl⟩
  case option item flag isFixed =>
    obtain ⟨text, htext⟩ := hparts item List.mem_cons_self
    rw [borshType?, htext]
    cases isFixed with
    | true => exact ⟨_, rfl⟩
    | false => by_cases hflag : flag = .u8 <;> simp [hflag]
  case map key value count =>
    obtain ⟨first, hfirst⟩ := hparts key List.mem_cons_self
    obtain ⟨second, hsecond⟩ := hparts value (List.mem_cons_of_mem key List.mem_cons_self)
    exact ⟨_, by rw [borshType?, hfirst, hsecond]; rfl⟩
  case tuple items =>
    have htexts : ∃ texts, itemBorshTypes? items = some texts := exists_itemBorshTypes? hparts
    obtain ⟨texts, htexts⟩ := htexts
    exact ⟨_, by rw [borshType?, htexts]; rfl⟩
  case number | string | bytes | publicKey => exact ⟨_, rfl⟩
  all_goals
    obtain ⟨text, htext⟩ := hparts _ List.mem_cons_self
    exact ⟨_, by rw [borshType?, htext]; rfl⟩

/-- A codec without names is named by a call. -/
theorem exists_call {codec : Codec} (h : codec.Nameless) :
    ∃ call, codec.call? = some call ∧ codec.spelling = call.spelling := by
  obtain ⟨text, htext⟩ := exists_borshType? h
  have hcall : ∃ call, codec.call? = some call := by
    cases codec
    case struct | enum | defined | unknown => cases h.own
    case option item flag isFixed => cases isFixed <;> exact ⟨_, rfl⟩
    all_goals exact ⟨_, rfl⟩
  obtain ⟨call, hcall⟩ := hcall
  exact ⟨call, hcall, spelling_eq_call hcall htext⟩

end Codec

end DartClient
