import DartClient.Codec.Annotation
import DartClient.Manifest.Resolve
import DartClient.Proofs.Codec.Parts

/-!
# The symbols in the expression of a layout

The expression that names a layout is put together from text that is the same for all clients and
from symbols of generated classes: the class of an enum, and the classes that know the layouts of
structs and variants. Here the expression is given as such a row of words, so that the symbols in it
can be told from the text between them.

## Main definitions

* `Word`, `Word.join`: the words of an expression and the text that they make.
* `Codec.words`: the expression of a layout as words.
* `Codec.mentions`: the symbols in it.

## Main results

* `Codec.borshType?_eq_some`: the words make the expression.
* `Codec.mentions_of_element?`, `Codec.mentions_map`, `Codec.mentions_tuple`: a layout that is no
  class mentions what its parts mention.
-/

namespace DartClient

open Idl (NumberFormat)

/-! ## Words -/

/-- A word of an expression. -/
inductive Word where
  /-- Text that is the same for all clients. -/
  | fixed (text : String)
  /-- The name of a variant, by which its layout is listed. -/
  | label (name : String)
  /-- A symbol of a generated class. -/
  | symbol (name : String)

namespace Word

/-- The text of a word. -/
def text : Word → String
  | fixed text => text
  | label name | symbol name => name

/-- The symbol that a word is. -/
def symbol? : Word → Option String
  | symbol name => some name
  | _ => none

/-- The text that words make. -/
def join (words : List Word) : String := String.join (words.map text)

/-- The symbols among words. -/
def symbols (words : List Word) : List String := words.filterMap symbol?

/-- Rows of words with commas between them. -/
def listed (rows : List (List Word)) : List Word := [fixed ", "].intercalate rows

/-- Rows of words in a pair of parentheses, which the first text opens. -/
def enclosed (opening : String) (rows : List (List Word)) : List Word :=
  fixed opening :: (listed rows ++ [fixed ")"])

@[simp] theorem join_nil : join [] = "" := rfl

@[simp] theorem join_cons (word : Word) (words : List Word) :
    join (word :: words) = word.text ++ join words := by
  rw [join, List.map_cons, String.join_cons, ← join]

@[simp] theorem join_append (words other : List Word) :
    join (words ++ other) = join words ++ join other := by
  rw [join, List.map_append, String.join_append, ← join, ← join]

theorem join_listed (rows : List (List Word)) :
    join (listed rows) = ", ".intercalate (rows.map join) := by
  induction rows with
  | nil => rfl
  | cons row rows ih =>
    cases rows with
    | nil => simp [listed, List.intercalate_singleton, String.intercalate_singleton]
    | cons next rows =>
      rw [listed, List.intercalate_cons_cons, join_append, join_append, ← listed, ih]
      simp only [List.map_cons, String.intercalate_cons_cons]
      rfl

theorem join_enclosed (opening : String) (rows : List (List Word)) :
    join (enclosed opening rows) = opening ++ ", ".intercalate (rows.map join) ++ ")" := by
  rw [enclosed, join_cons, join_append, join_listed, ← String.append_assoc]
  rfl

@[simp] theorem symbols_nil : symbols [] = [] := rfl

@[simp] theorem symbols_append (words other : List Word) :
    symbols (words ++ other) = symbols words ++ symbols other := List.filterMap_append

@[simp] theorem symbols_cons_fixed (text : String) (words : List Word) :
    symbols (fixed text :: words) = symbols words := List.filterMap_cons_none rfl

@[simp] theorem symbols_cons_label (name : String) (words : List Word) :
    symbols (label name :: words) = symbols words := List.filterMap_cons_none rfl

@[simp] theorem symbols_cons_symbol (name : String) (words : List Word) :
    symbols (symbol name :: words) = name :: symbols words := List.filterMap_cons_some rfl

theorem symbols_listed (rows : List (List Word)) :
    symbols (listed rows) = rows.flatMap symbols := by
  induction rows with
  | nil => rfl
  | cons row rows ih =>
    cases rows with
    | nil => simp [listed, List.intercalate_singleton]
    | cons next rows =>
      rw [listed, List.intercalate_cons_cons, symbols_append, symbols_append, ← listed, ih,
        List.flatMap_cons]
      simp

theorem symbols_enclosed (opening : String) (rows : List (List Word)) :
    symbols (enclosed opening rows) = rows.flatMap symbols := by
  rw [enclosed, symbols_cons_fixed, symbols_append, symbols_listed]
  simp

end Word

/-! ## The words of an expression -/

/-- The words of a value with a length. -/
def lengthWords (base : String) (length : Length) (rows : List (List Word)) : List Word :=
  match length with
  | .prefixed .u32 => Word.enclosed ("B" ++ base ++ "(") rows
  | .prefixed format =>
    Word.enclosed ("BPrefixed" ++ base ++ "(") ([.fixed (numberBorshType format)] :: rows)
  | .fixed size => Word.enclosed ("BFixed" ++ base ++ "(") ([.fixed (toString size)] :: rows)
  | .remainder => Word.enclosed ("BRemainder" ++ base ++ "(") rows

/-- The words of an option. -/
def optionWords (flag : NumberFormat) (isFixed : Bool) (row : List Word) : List Word :=
  if isFixed then Word.enclosed "BFixedOption(" [[.fixed (numberBorshType flag)], row]
  else if flag = .u8 then Word.enclosed "BOption(" [row]
  else Word.enclosed "BPrefixedOption(" [[.fixed (numberBorshType flag)], row]

/-- The words of a struct. -/
def structWords (name : String) : List Word :=
  [.fixed "BCustom(", .symbol ("B" ++ name), .fixed "())"]

/-- The words of an enum. -/
def enumWords (name : String) (variants : List String) : List Word :=
  .fixed "BEnum<" :: .symbol name :: .fixed ">(\x7b" :: (Word.listed (variants.map fun variant =>
    [.label variant, .fixed ": ", .symbol ("B" ++ variant), .fixed "()"]) ++ [.fixed "\x7d)"])

mutual

/-- The words of the expression that names a layout. -/
def Codec.words : Codec → List Word
  | .number format => [.fixed (numberBorshType format)]
  | .boolean .u8 => [.fixed "BBool()"]
  | .boolean format => [.fixed ("BPrefixedBool(" ++ numberBorshType format ++ ")")]
  | .string length => lengthWords "String" length []
  | .bytes length => lengthWords "Bytes" length []
  | .publicKey => [.fixed "BPublicKey()"]
  | .option item flag isFixed => optionWords flag isFixed item.words
  | .list item count => lengthWords "Array" count [item.words]
  | .typedArray item count => Word.enclosed "BFixedArray(" [[.fixed (toString count)], item.words]
  | .set item count => lengthWords "Set" count [item.words]
  | .map key value count => lengthWords "Map" count [key.words, value.words]
  | .tuple items => .fixed "BTuple([" :: (Word.listed (itemWords items) ++ [.fixed "])"])
  | .struct name _ => structWords name
  | .enum name _ variants => enumWords name (variants.map VariantCodec.name)
  | .defined name (.enum variants) => enumWords name variants
  | .defined name .struct => structWords name
  | .sizePrefixed inner width =>
    Word.enclosed "BSizePrefixed(" [[.fixed (numberBorshType width)], inner.words]
  | .fixedSize inner size => Word.enclosed "BFixedSize(" [[.fixed (toString size)], inner.words]
  | .unknown _ => []

/-- The words of the expressions of items in a row. -/
def itemWords : List Codec → List (List Word)
  | [] => []
  | item :: items => item.words :: itemWords items

end

theorem itemWords_eq_map (items : List Codec) : itemWords items = items.map Codec.words := by
  induction items with
  | nil => rfl
  | cons item items ih => exact congrArg (item.words :: ·) ih

theorem join_lengthWords (base : String) (length : Length) (rows : List (List Word)) :
    Word.join (lengthWords base length rows) =
      lengthBorshType base length (rows.map Word.join) := by
  unfold lengthWords lengthBorshType
  split <;> simp [Word.join_enclosed, Word.text]

theorem join_optionWords (flag : NumberFormat) (isFixed : Bool) (row : List Word) :
    Word.join (optionWords flag isFixed row) =
      if isFixed then "BFixedOption(" ++ numberBorshType flag ++ ", " ++ Word.join row ++ ")"
      else if flag = .u8 then "BOption(" ++ Word.join row ++ ")"
      else "BPrefixedOption(" ++ numberBorshType flag ++ ", " ++ Word.join row ++ ")" := by
  unfold optionWords
  split
  case isTrue =>
    rw [Word.join_enclosed]
    simp [Word.text, String.intercalate_cons_cons, ← String.append_assoc]
  case isFalse =>
    split
    · simp [Word.join_enclosed]
    · rw [Word.join_enclosed]
      simp [Word.text, String.intercalate_cons_cons, ← String.append_assoc]

theorem join_structWords (name : String) :
    Word.join (structWords name) = "BCustom(B" ++ name ++ "())" := by
  simp [structWords, Word.text, ← String.append_assoc]

theorem join_enumWords (name : String) (variants : List String) :
    Word.join (enumWords name variants) = enumBorshType name variants := by
  have hentries : (variants.map fun variant => [Word.label variant, .fixed ": ",
      .symbol ("B" ++ variant), .fixed "()"]).map Word.join =
      variants.map fun variant => variant ++ ": B" ++ variant ++ "()" := by
    rw [List.map_map]
    refine List.map_congr_left fun variant _ => ?_
    simp [Word.text, ← String.append_assoc]
  rw [enumWords, Word.join_cons, Word.join_cons, Word.join_cons, Word.join_append,
    Word.join_listed, hentries, enumBorshType]
  simp [Word.text, ← String.append_assoc]

theorem symbols_lengthWords (base : String) (length : Length) (rows : List (List Word)) :
    Word.symbols (lengthWords base length rows) = rows.flatMap Word.symbols := by
  unfold lengthWords
  split <;> simp [Word.symbols_enclosed]

theorem symbols_optionWords (flag : NumberFormat) (isFixed : Bool) (row : List Word) :
    Word.symbols (optionWords flag isFixed row) = Word.symbols row := by
  unfold optionWords
  split
  · simp [Word.symbols_enclosed]
  · split <;> simp [Word.symbols_enclosed]

theorem symbols_enumWords (name : String) (variants : List String) :
    Word.symbols (enumWords name variants) = name :: variants.map layoutSymbol := by
  simp only [enumWords, Word.symbols_cons_fixed, Word.symbols_cons_symbol, Word.symbols_append,
    Word.symbols_listed, List.flatMap_map, Word.symbols_cons_label, Word.symbols_nil,
    List.append_nil]
  rw [List.map_eq_flatMap]
  rfl

/-- What the expressions of items are, the expressions of a row of them are. -/
theorem eq_map_of_itemBorshTypes? {expression : Codec → String} {items : List Codec} :
    ∀ {texts : List String}, itemBorshTypes? items = some texts →
    (∀ item ∈ items, ∀ text, item.borshType? = some text → text = expression item) →
    texts = items.map expression := by
  induction items with
  | nil =>
    intro texts h _
    obtain rfl := Option.some.inj h
    rfl
  | cons item items ih =>
    intro texts h hitems
    obtain ⟨text, htext, h⟩ := Option.bind_eq_some_iff.mp h
    obtain ⟨rest, hrest, h⟩ := Option.bind_eq_some_iff.mp h
    obtain rfl := Option.some.inj h
    obtain ⟨hitem, hitems⟩ := List.forall_mem_cons.mp hitems
    rw [List.map_cons, ← hitem text htext, ← ih hrest hitems]

namespace Codec

/-- **The words make the expression**, where there is one. -/
theorem borshType?_eq_some {codec : Codec} :
    ∀ {text : String}, codec.borshType? = some text → text = Word.join codec.words := by
  induction codec using induction_parts with
  | step codec ih =>
    -- A layout has an expression only where all parts that are written out have one.
    intro text h
    cases codec with
    | number format =>
      obtain rfl := Option.some.inj h
      simp [words, Word.text]
    | boolean format =>
      cases format <;> obtain rfl := Option.some.inj h <;> simp [words, Word.text]
    | string length =>
      obtain rfl := Option.some.inj h
      rw [words, join_lengthWords, List.map_nil]
    | bytes length =>
      obtain rfl := Option.some.inj h
      rw [words, join_lengthWords, List.map_nil]
    | publicKey =>
      obtain rfl := Option.some.inj h
      simp [words, Word.text]
    | option item flag isFixed =>
      obtain ⟨inner, hinner, h⟩ := Option.bind_eq_some_iff.mp h
      obtain rfl := ih item List.mem_cons_self hinner
      rw [words, join_optionWords]
      cases isFixed with
      | true => exact (Option.some.inj h).symm
      | false =>
        by_cases hflag : flag = .u8
        · subst hflag
          exact (Option.some.inj h).symm
        · rw [if_neg Bool.false_ne_true, if_neg hflag] at h ⊢
          exact (Option.some.inj h).symm
    | list item count | set item count =>
      obtain ⟨inner, hinner, h⟩ := Option.bind_eq_some_iff.mp h
      obtain rfl := ih item List.mem_cons_self hinner
      obtain rfl := Option.some.inj h
      rw [words, join_lengthWords, List.map_singleton]
    | typedArray item count =>
      obtain ⟨inner, hinner, h⟩ := Option.bind_eq_some_iff.mp h
      obtain rfl := ih item List.mem_cons_self hinner
      obtain rfl := Option.some.inj h
      rw [words, Word.join_enclosed]
      simp [Word.text, String.intercalate_cons_cons, ← String.append_assoc]
    | map key value count =>
      obtain ⟨keyText, hkey, h⟩ := Option.bind_eq_some_iff.mp h
      obtain ⟨valueText, hvalue, h⟩ := Option.bind_eq_some_iff.mp h
      obtain rfl := ih key List.mem_cons_self hkey
      obtain rfl := ih value (List.mem_cons_of_mem _ List.mem_cons_self) hvalue
      obtain rfl := Option.some.inj h
      rw [words, join_lengthWords]
      rfl
    | tuple items =>
      obtain ⟨texts, htexts, h⟩ := Option.bind_eq_some_iff.mp h
      obtain rfl := Option.some.inj h
      have hjoined : texts = (itemWords items).map Word.join := by
        rw [itemWords_eq_map, List.map_map]
        exact eq_map_of_itemBorshTypes? htexts fun item hitem _ h => ih item hitem h
      rw [words, Word.join_cons, Word.join_append, Word.join_listed, ← hjoined]
      simp [Word.text, ← String.append_assoc]
    | struct name fields =>
      unfold borshType? at h
      split at h
      · cases h
      · obtain rfl := Option.some.inj h
        rw [words, join_structWords]
    | enum name size variants =>
      obtain rfl := Option.some.inj h
      rw [words, join_enumWords]
    | defined name kind =>
      cases kind with
      | struct =>
        obtain rfl := Option.some.inj h
        rw [words, join_structWords]
      | enum variants =>
        obtain rfl := Option.some.inj h
        rw [words, join_enumWords]
    | sizePrefixed inner width | fixedSize inner size =>
      obtain ⟨innerText, hinner, h⟩ := Option.bind_eq_some_iff.mp h
      obtain rfl := ih inner List.mem_cons_self hinner
      obtain rfl := Option.some.inj h
      rw [words, Word.join_enclosed]
      simp [Word.text, String.intercalate_cons_cons, ← String.append_assoc]
    | unknown kind => cases h

/-! ## The symbols of an expression -/

/-- The symbols that the expression of a layout mentions. -/
def mentions (codec : Codec) : List String := Word.symbols codec.words

/-- A layout around another one mentions what that one mentions. -/
theorem mentions_of_element? {codec inner : Codec} (h : codec.element? = some inner) :
    codec.mentions = inner.mentions := by
  unfold mentions
  cases codec <;> cases h
  case option => exact symbols_optionWords _ _ _
  case list | set => exact (symbols_lengthWords _ _ _).trans (List.append_nil _)
  case typedArray | sizePrefixed | fixedSize =>
    exact (Word.symbols_enclosed _ _).trans (List.append_nil _)

theorem mentions_map (key value : Codec) (count : Length) :
    (map key value count).mentions = key.mentions ++ value.mentions := by
  show Word.symbols (lengthWords "Map" count [key.words, value.words]) = _
  rw [symbols_lengthWords]
  simp [mentions]

theorem mentions_tuple (items : List Codec) :
    (tuple items).mentions = items.flatMap mentions := by
  show Word.symbols (.fixed "BTuple([" :: (Word.listed (itemWords items) ++ [.fixed "])"])) = _
  rw [Word.symbols_cons_fixed, Word.symbols_append, Word.symbols_listed, itemWords_eq_map,
    List.flatMap_map]
  exact List.append_nil _

theorem mentions_struct (name : String) (fields : List FieldCodec) :
    (struct name fields).mentions = [layoutSymbol name] := rfl

theorem mentions_enum (name : String) (size : NumberFormat) (variants : List VariantCodec) :
    (enum name size variants).mentions =
      name :: variants.map fun variant => layoutSymbol variant.name := by
  show Word.symbols (enumWords name (variants.map VariantCodec.name)) = _
  rw [symbols_enumWords, List.map_map]
  rfl

theorem mentions_defined_struct (name : String) :
    (defined name .struct).mentions = [layoutSymbol name] := rfl

theorem mentions_defined_enum (name : String) (variants : List String) :
    (defined name (.enum variants)).mentions = name :: variants.map layoutSymbol :=
  symbols_enumWords name variants

end Codec

end DartClient
