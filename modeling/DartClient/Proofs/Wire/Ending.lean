import DartClient.Manifest.Resolve
import DartClient.Proofs.Codec.Parts
import DartClient.Proofs.Text.Utf8
import DartClient.Proofs.Wire.Progress

/-!
# Whether decoding ends

Only a list, set or map that goes on to the end of the input can be read for ever, namely if its
items idle. Whether they do can be told from the codec. Few codecs take nothing from an input that
is not used up: texts and bytes of length zero, no items, rows of such parts, and a size wrapper of
no bytes around what can be read from an empty input, such as a text that takes all that is left.
None of them is refused as an item, so there are types whose decoding does not end.

## Main definitions

* `Codec.idles`: whether a value is read without taking a byte.
* `Codec.LoopAdvances`, `Codec.idleLoop`: the loop of a codec advances, or its items idle.

## Main results

* `Codec.idlesIf_read`: reading idles exactly where the codec tells.
* `Codec.ends_iff`: decoding ends and every loop advances exactly if no loop idles.
-/

namespace DartClient

open Idl (NumberFormat)
open Step

/-- Whether items with their number, or bytes with theirs, are read without taking a byte: `item`
tells it of an item, and `atEnd` tells that the input is used up. -/
def Length.idles (length : Length) (item atEnd : Bool) : Bool :=
  match length with
  | .prefixed _ => false
  | .fixed n => n == 0 || item
  | .remainder => atEnd

/-- Reads an entry of a map, the key in front of the value. -/
def Codec.readEntry (key value : Codec) : Step (Value × Value) := do
  return (← key.read, ← value.read)

namespace Codec

mutual

/-- Whether a value is read without taking a byte; `atEnd` tells that the input is used up. -/
def idles : Codec → Bool → Bool
  | .string length, atEnd | .bytes length, atEnd => length.idles false atEnd
  | .list item count, atEnd | .set item count, atEnd => count.idles (item.idles atEnd) atEnd
  | .typedArray item count, atEnd => (Length.fixed count).idles (item.idles atEnd) atEnd
  | .map key value count, atEnd => count.idles (key.idles atEnd && value.idles atEnd) atEnd
  | .tuple items, atEnd => itemsIdle items atEnd
  | .struct _ fields, atEnd => fieldsIdle fields atEnd
  | .fixedSize inner size, _ => size == 0 && inner.idles true
  | _, _ => false

/-- Whether all items in a row are read without taking a byte. -/
def itemsIdle : List Codec → Bool → Bool
  | [], _ => true
  | item :: items, atEnd => item.idles atEnd && itemsIdle items atEnd

/-- Whether all fields in a row are read without taking a byte. -/
def fieldsIdle : List FieldCodec → Bool → Bool
  | [], _ => true
  | ⟨_, codec⟩ :: fields, atEnd => codec.idles atEnd && fieldsIdle fields atEnd

end

end Codec

/-! ## Where numbers, bytes and items idle -/

theorem readsSize_number_ge (format : NumberFormat) : ReadsSize (· ≥ ·) (readNumber format) 1 := by
  have hfixed : ∀ {format : NumberFormat} {width : Nat}, format.byteWidth? = some width →
      1 ≤ width → ReadsSize (· ≥ ·) (readNumber format) 1 := fun hwidth hle =>
    (Codec.Measures.number_of_byteWidth? sizeOrder_ge hwidth).reads.mono_ge hle
  have hgroups : ∀ more place value, ReadsSize (· ≥ ·) (readShort place value more) 1 := by
    intro more
    induction more with
    | zero => exact fun _ _ => readsSize_fail _
    | succ more ih =>
      intro place value
      refine (readsSize_take sizeOrder_ge 1 "shortU16").bind (n := 0) sizeOrder_ge fun bytes => ?_
      dsimp only
      split
      · exact readsSize_done sizeOrder_ge _
      · exact (ih _ _).mono_ge (Nat.zero_le 1)
  cases format
  case shortU16 => exact hgroups 3 0 0
  all_goals exact hfixed rfl (by decide)

theorem readsSize_size_ge (format : NumberFormat) (error : WireError) :
    ReadsSize (· ≥ ·) (readSize format error) 1 :=
  (readsSize_number_ge format).bind (n := 0) sizeOrder_ge fun _ =>
    readsSize_ofOption sizeOrder_ge _ _

variable {α : Type} {read : Step α}

theorem idlesIf_readBytes (length : Length) (place : String) :
    IdlesIf (length.idles false) (readBytes length place) := by
  cases length with
  | prefixed format =>
    exact .never ((readsSize_size_ge format .lengthTooGreat).bind (n := 0) sizeOrder_ge fun n =>
      (readsSize_take sizeOrder_ge n place).mono_ge (Nat.zero_le n))
  | fixed n =>
    have hidle : (Length.fixed n).idles false = fun _ => n == 0 := by
      funext atEnd
      exact Bool.or_false _
    rw [hidle]
    exact .take n place
  | remainder => exact .takeAll

theorem idlesIf_readList {idle : Bool → Bool} (count : Length) (h : IdlesIf idle read) :
    IdlesIf (fun atEnd => count.idles (idle atEnd) atEnd) (readList count read) := by
  cases count with
  | prefixed format =>
    exact .never ((readsSize_size_ge format .lengthTooGreat).bind (n := 0) sizeOrder_ge fun n =>
      (h.repeated n).readsSize)
  | fixed n => exact h.repeated n
  | remainder => exact h.untilEmpty

theorem idlesIf_readItems : ∀ {items : List Codec},
    (∀ item ∈ items, IdlesIf item.idles item.read) →
      IdlesIf (Codec.itemsIdle items) (readItems items)
  | [], _ => IdlesIf.done []
  | item :: items, h => by
    have htail := idlesIf_readItems fun item hitem => h item (List.mem_cons_of_mem _ hitem)
    rw [readItems_cons]
    exact (h item List.mem_cons_self).bind fun _ => htail.map

theorem idlesIf_readFields : ∀ {fields : List FieldCodec},
    (∀ field ∈ fields, IdlesIf field.codec.idles field.codec.read) →
      IdlesIf (Codec.fieldsIdle fields) (readFields fields)
  | [], _ => IdlesIf.done []
  | ⟨name, codec⟩ :: fields, h => by
    have htail := idlesIf_readFields fun field hfield => h field (List.mem_cons_of_mem _ hfield)
    rw [readFields_cons]
    exact (h ⟨name, codec⟩ List.mem_cons_self).bind fun _ => htail.map

namespace Codec

/-- A text idles where its bytes do, since no bytes are a text. -/
theorem idlesIf_string (length : Length) :
    IdlesIf (Codec.string length).idles (Codec.string length).read where
  takes input value rest hread := by
    rw [read_string] at hread
    obtain ⟨part, mid, hpart, htext⟩ := bind_eq_ok_iff.mp hread
    obtain rfl : mid = rest := by
      cases hdecode : Text.Utf8.decode part with
      | ok text =>
        rw [hdecode] at htext
        exact (Prod.mk.inj htext).2
      | error fault =>
        rw [hdecode] at htext
        cases htext
    exact (idlesIf_readBytes length "string").takes input part mid hpart
  stays input hidle := by
    have hpart : readBytes length "string" input = (.ok [], input) := by
      cases length with
      | prefixed format => cases hidle
      | fixed n =>
        obtain rfl : n = 0 := by simpa [idles, Length.idles] using hidle
        rfl
      | remainder =>
        obtain rfl := List.isEmpty_iff.mp hidle
        rfl
    refine ⟨.string "", ?_⟩
    rw [read_string]
    refine bind_eq_ok_iff.mpr ⟨[], input, hpart, ?_⟩
    rw [show Text.Utf8.decode [] = .ok "" from Text.Utf8.decode_of_encode ""]
    rfl

theorem idlesIf_readEntry {key value : Codec} (hkey : IdlesIf key.idles key.read)
    (hvalue : IdlesIf value.idles value.read) :
    IdlesIf (fun atEnd => key.idles atEnd && value.idles atEnd) (key.readEntry value) :=
  hkey.bind fun _ => hvalue.map

/-- A size wrapper idles if it holds no bytes and its inner value is read from none. -/
theorem idlesIf_fixedSize {inner : Codec} (h : IdlesIf inner.idles inner.read) (size : Nat) :
    IdlesIf (Codec.fixedSize inner size).idles (Codec.fixedSize inner size).read where
  takes input value rest hread := by
    rw [read_fixedSize] at hread
    obtain ⟨part, mid, hpart, hinner⟩ := bind_eq_ok_iff.mp hread
    obtain ⟨hvalue, rfl⟩ := Prod.mk.inj hinner
    obtain ⟨taken, hinput, hlength⟩ := readsSize_take sizeOrder_eq size _ input part mid hpart
    refine ⟨taken, hinput, ?_⟩
    rintro rfl
    -- No bytes are taken, so the inner value has been read from no bytes.
    subst hlength
    obtain ⟨rfl, -⟩ : [] = part ∧ input = mid := by simpa [take] using hpart
    obtain ⟨front, hfront, hidle⟩ := h.takes [] value (inner.read []).2 (Prod.ext hvalue rfl)
    have hnone := (List.append_eq_nil_iff.mp hfront.symm).1
    simpa [idles] using hidle hnone
  stays input hidle := by
    obtain ⟨rfl, hinner⟩ : size = 0 ∧ inner.idles true = true := by simpa [idles] using hidle
    obtain ⟨value, hvalue⟩ := h.stays [] hinner
    refine ⟨value, ?_⟩
    rw [read_fixedSize]
    exact bind_eq_ok_iff.mpr ⟨[], input, rfl, by simp [within, hvalue]⟩

/-- **Reading idles exactly where the codec tells.** -/
theorem idlesIf_read (codec : Codec) : IdlesIf codec.idles codec.read := by
  induction codec using induction_parts with
  | step codec ih =>
  -- What begins with a number or has bytes of its own never idles; all others do as their parts do.
  cases codec
  case number format => exact .never (readsSize_number_ge format)
  case boolean format =>
    refine .never ?_
    rw [read_boolean]
    refine (readsSize_number_ge format).bind (n := 0) sizeOrder_ge fun value => ?_
    split
    · exact readsSize_done sizeOrder_ge _
    · exact readsSize_done sizeOrder_ge _
    · exact readsSize_fail _
  case string length =>
    exact idlesIf_string length
  case bytes length =>
    rw [read_bytes]
    exact (idlesIf_readBytes length "bytes").map
  case publicKey => exact .never ((Measures.publicKey sizeOrder_ge).reads.mono_ge (by decide))
  case option item flag isFixed =>
    have hitem := ih item List.mem_cons_self
    refine .never ?_
    rw [read_option]
    refine (readsSize_number_ge flag).bind (n := 0) sizeOrder_ge fun value => ?_
    split
    · cases isFixed with
      | false => exact readsSize_done sizeOrder_ge _
      | true =>
        refine (readsSize_ofOption sizeOrder_ge _ _).bind (n := 0) sizeOrder_ge fun size => ?_
        exact ((readsSize_take sizeOrder_ge size _).map sizeOrder_ge).mono_ge (Nat.zero_le size)
    · exact hitem.readsSize.map sizeOrder_ge
    · exact readsSize_fail _
  case list item count | set item count =>
    exact (idlesIf_readList count (ih item List.mem_cons_self)).map
  case typedArray item count =>
    exact (idlesIf_readList (.fixed count) (ih item List.mem_cons_self)).map
  case map key value count =>
    have hentry := idlesIf_readEntry (ih key List.mem_cons_self)
      (ih value (List.mem_cons_of_mem key List.mem_cons_self))
    exact (idlesIf_readList count hentry).map
  case tuple items => exact (idlesIf_readItems ih).map
  case struct name fields =>
    exact (idlesIf_readFields fun field hfield => ih _ (List.mem_map_of_mem hfield)).map
  case enum name size variants =>
    refine .never ?_
    rw [read_enum]
    refine (readsSize_size_ge size _).bind (n := 0) sizeOrder_ge fun index => ?_
    refine ReadsSize.map sizeOrder_ge ?_
    cases hget : variants[index]? with
    | none =>
      rw [readVariant_eq_fail hget]
      exact readsSize_fail _
    | some variant =>
      rw [readVariant_eq hget]
      refine (idlesIf_readItems fun item hitem => ih item ?_).readsSize
      exact List.mem_flatMap.mpr ⟨variant, List.mem_of_getElem? hget, hitem⟩
  case sizePrefixed inner width =>
    refine .never ?_
    rw [read_sizePrefixed]
    refine (readsSize_size_ge width _).bind (n := 0) sizeOrder_ge fun size => ?_
    refine ReadsSize.mono_ge (Nat.zero_le (size + 0)) ?_
    exact (readsSize_take sizeOrder_ge size _).bind sizeOrder_ge fun part =>
      readsSize_within sizeOrder_ge part inner.read
  case fixedSize inner size => exact idlesIf_fixedSize (ih inner List.mem_cons_self) size
  all_goals exact .never (readsSize_fail _)

/-! ## Loops -/

/-- The loop of a codec, where it has one, takes a byte with every pass, and so makes at most as many
passes as there are bytes. -/
def LoopAdvances : Codec → Prop
  | .list item .remainder | .set item .remainder =>
    Advances item.read ∧ ∀ n input rest, Passes item.read n input rest → n ≤ input.length
  | .map key value .remainder =>
    Advances (key.readEntry value) ∧
      ∀ n input rest, Passes (key.readEntry value) n input rest → n ≤ input.length
  | _ => True

/-- Whether the codec has a loop whose items are read without taking a byte. -/
def idleLoop : Codec → Bool
  | .list item .remainder | .set item .remainder => item.idles false
  | .map key value .remainder => key.idles false && value.idles false
  | _ => false

theorem advances_and_passes_iff {idle : Bool → Bool} (h : IdlesIf idle read) :
    (Advances read ∧ ∀ n input rest, Passes read n input rest → n ≤ input.length) ↔
      idle false = false := by
  rw [h.advances_iff, and_iff_left_iff_imp]
  intro hidle n input rest hpasses
  have hle := hpasses.add_length_le (h.advances_iff.mpr hidle)
  omega

theorem loopAdvances_iff (codec : Codec) : codec.LoopAdvances ↔ codec.idleLoop = false := by
  cases codec
  case list item count | set item count =>
    cases count
    case remainder => exact advances_and_passes_iff item.idlesIf_read
    all_goals exact iff_of_true trivial rfl
  case map key value count =>
    cases count
    case remainder =>
      exact advances_and_passes_iff (idlesIf_readEntry key.idlesIf_read value.idlesIf_read)
    all_goals exact iff_of_true trivial rfl
  all_goals exact iff_of_true trivial rfl

end Codec

/-! ## Readers that end -/

theorem ends_takeNumber (format : NumberFormat) (width : Nat) : Ends (takeNumber format width) := by
  intro input
  unfold takeNumber
  split <;> exact fun h => by cases h

theorem ends_number (format : NumberFormat) : Ends (readNumber format) := by
  have hfloat : ∀ {format width isNaN ofBits}, Ends (readFloat format width isNaN ofBits) := by
    intro format width isNaN ofBits
    refine (ends_takeNumber format width).bind fun bits => ?_
    split
    · exact .fail (by simp)
    · exact .done _
  have hshort : ∀ more place value, Ends (readShort place value more) := by
    intro more
    induction more with
    | zero => exact fun _ _ => .fail (by simp)
    | succ more ih =>
      intro place value
      refine (Ends.take 1 "shortU16").bind fun bytes => ?_
      dsimp only
      split
      · exact .done _
      · exact ih _ _
  cases format
  case f32 | f64 => exact hfloat
  case shortU16 => exact hshort 3 0 0
  all_goals exact (ends_takeNumber _ _).map

theorem ends_size (format : NumberFormat) {error : WireError} (herror : error ≠ .endless) :
    Ends (readSize format error) :=
  (ends_number format).bind fun _ => .ofOption _ herror

theorem ends_readBytes (length : Length) (place : String) : Ends (readBytes length place) := by
  cases length with
  | prefixed format => exact (ends_size format (by simp)).bind fun n => .take n place
  | fixed n => exact .take n place
  | remainder => exact fun _ h => by cases h

/-- Items end if each of them does, and if their loop advances where there is one. -/
theorem ends_readList (count : Length) (h : Ends read) (hfront : ReadsSize (· ≥ ·) read 0)
    (hloop : count = .remainder → Advances read) : Ends (readList count read) := by
  cases count with
  | prefixed format => exact (ends_size format (by simp)).bind fun n => h.repeated n
  | fixed n => exact h.repeated n
  | remainder => exact h.untilEmpty hfront (hloop rfl)

theorem ends_readItems : ∀ {items : List Codec}, (∀ item ∈ items, Ends item.read) →
    Ends (readItems items)
  | [], _ => Ends.done []
  | item :: items, h => by
    have htail := ends_readItems fun item hitem => h item (List.mem_cons_of_mem _ hitem)
    rw [readItems_cons]
    exact (h item List.mem_cons_self).bind fun _ => htail.map

theorem ends_readFields : ∀ {fields : List FieldCodec},
    (∀ field ∈ fields, Ends field.codec.read) → Ends (readFields fields)
  | [], _ => Ends.done []
  | ⟨name, codec⟩ :: fields, h => by
    have htail := ends_readFields fun field hfield => h field (List.mem_cons_of_mem _ hfield)
    rw [readFields_cons]
    exact (h ⟨name, codec⟩ List.mem_cons_self).bind fun _ => htail.map

namespace Codec

/-- What is read with a codec ends if its loop advances and its parts end. -/
theorem ends_of_parts {codec : Codec} (hloop : codec.LoopAdvances)
    (hparts : ∀ part ∈ codec.parts, Ends part.read) : Ends codec.read := by
  -- Only a loop up to the end of the input may go on for ever, which `hloop` rules out.
  cases codec
  case number format => exact ends_number format
  case boolean format =>
    rw [read_boolean]
    refine (ends_number format).bind fun value => ?_
    split
    · exact .done _
    · exact .done _
    · exact .fail (by simp)
  case string length =>
    rw [read_string]
    refine (ends_readBytes length "string").bind fun part => ?_
    split
    · exact .done _
    · exact .fail (by simp)
  case bytes length => exact (ends_readBytes length "bytes").map
  case publicKey =>
    rw [read_publicKey]
    refine Ends.map fun input => ?_
    unfold takeAddress
    split <;> exact fun h => by cases h
  case option item flag isFixed =>
    rw [read_option]
    refine (ends_number flag).bind fun value => ?_
    split
    · cases isFixed with
      | false => exact .done _
      | true => exact (Ends.ofOption _ (by simp)).bind fun size => (Ends.take size _).map
    · exact (hparts item List.mem_cons_self).map
    · exact .fail (by simp)
  case list item count | set item count =>
    refine (ends_readList count (hparts item List.mem_cons_self) item.idlesIf_read.readsSize ?_).map
    rintro rfl
    exact hloop.1
  case typedArray item count =>
    exact (ends_readList (.fixed count) (hparts item List.mem_cons_self) item.idlesIf_read.readsSize
      (by simp)).map
  case map key value count =>
    have hkey := hparts key List.mem_cons_self
    have hvalue := hparts value (List.mem_cons_of_mem key List.mem_cons_self)
    have hfront := (idlesIf_readEntry key.idlesIf_read value.idlesIf_read).readsSize
    refine (ends_readList count (hkey.bind fun _ => hvalue.map) hfront ?_).map
    rintro rfl
    exact hloop.1
  case tuple items => exact (ends_readItems hparts).map
  case struct name fields =>
    exact (ends_readFields fun field hfield => hparts _ (List.mem_map_of_mem hfield)).map
  case enum name size variants =>
    rw [read_enum]
    refine (ends_size size (by simp)).bind fun index => Ends.map ?_
    cases hget : variants[index]? with
    | none =>
      rw [readVariant_eq_fail hget]
      exact .fail (by simp)
    | some variant =>
      rw [readVariant_eq hget]
      refine ends_readItems fun item hitem => hparts item ?_
      exact List.mem_flatMap.mpr ⟨variant, List.mem_of_getElem? hget, hitem⟩
  case sizePrefixed inner width =>
    rw [read_sizePrefixed]
    refine (ends_size width (by simp)).bind fun size => ?_
    exact (Ends.take size _).bind fun part => (hparts inner List.mem_cons_self).within part
  case fixedSize inner size =>
    rw [read_fixedSize]
    exact (Ends.take size _).bind fun part => (hparts inner List.mem_cons_self).within part
  case defined | unknown => exact Ends.fail (by simp)

theorem ends_read {codec : Codec} (h : codec.Throughout LoopAdvances) : Ends codec.read := by
  induction h with
  | intro own _ ih => exact ends_of_parts own ih

/-- **Decoding ends and every loop advances exactly if no loop idles**, in the codec or below. -/
theorem ends_iff (codec : Codec) :
    ((∀ input, (codec.read input).1 ≠ .error .endless) ∧ codec.Throughout LoopAdvances) ↔
      codec.Throughout fun part => part.idleLoop = false := by
  constructor
  · rintro ⟨-, hloops⟩
    exact hloops.imp fun part => part.loopAdvances_iff.mp
  · intro hidle
    have hloops := hidle.imp fun part => part.loopAdvances_iff.mpr
    exact ⟨ends_read hloops, hloops⟩

end Codec

namespace Resolver

/-- A list of empty tuples up to the end of the input is a type, but a single byte is too much for
it: the passes of its loop never end. -/
theorem goesOn_emptyTuples : ∃ manifest,
    Resolver.resolve ⟨.empty, "main"⟩ (.array (.tuple []) .remainder) (.root "Root" .type) =
      .ok manifest ∧
    manifest.codec = .list (.tuple []) .remainder ∧ GoesOn (Codec.tuple []).read [0] ∧
    (manifest.codec.read [0]).1 = .error .endless := by
  have hgoes : GoesOn (Codec.tuple []).read [0] :=
    fun n => ⟨[0], passes_of_idle (List.cons_ne_nil 0 []) rfl n⟩
  have hloop := (untilEmpty_endless_iff (Codec.tuple []).idlesIf_read.readsSize).mpr (.inl hgoes)
  exact ⟨_, rfl, rfl, hgoes, bind_fst_eq_error hloop⟩

end Resolver

end DartClient
