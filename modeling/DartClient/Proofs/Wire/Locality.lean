import DartClient.Proofs.Wire.Rewriting

/-!
# Reading looks no further than it takes

A reader takes bytes from the front of its input, whether it succeeds or fails, so what it leaves is
the end of the input. A reader that succeeds has not looked at what it leaves: in front of any other
bytes it takes the same bytes and gives the same value. This is false of what goes on to the end of
the input, and only of that. Below a size wrapper the end of the input is the end of the bytes that
belong to the wrapper, so nothing is said about what stands there.

Both properties pass from the steps of a reader to the reader. So they are carried through codecs
once, for any property that does so.

## Main definitions

* `Step.TakesFront`: a reader that leaves the end of its input.
* `Step.LooksNoFurther`: a reader that does not look at what it leaves.
* `Step.Composes`: properties that pass from the steps of a reader to the reader.
* `Codec.Delimited`: codecs that go on to the end of the input below size wrappers only.

## Main results

* `Step.Composes.read_of_parts`: what passes to readers passes to codecs.
* `Codec.read_locality`: reading leaves the end of the input, and does not look at it.
-/

namespace DartClient

open Idl (NumberFormat)

namespace Step

variable {α β : Type}

/-- What the reader leaves is the end of its input, also where it fails. -/
def TakesFront (read : Step α) : Prop := ∀ input, (read input).2 <:+ input

/-- Where the reader succeeds, it would have taken the same bytes and given the same value in front
of anything else. -/
def LooksNoFurther (read : Step α) : Prop :=
  ∀ input a rest, read input = (.ok a, rest) → ∃ taken, input = taken ++ rest ∧ Reads read taken a

/-- A property that elementary readers have and that passes from the steps of a reader to the
reader. Reading from a part that has already been taken is an elementary reader. -/
structure Composes (P : ∀ {α : Type}, Step α → Prop) : Prop where
  /-- A value is given without reading. -/
  done : ∀ {α : Type} (a : α), P (done a)
  /-- A failure is given without reading. -/
  fail : ∀ {α : Type} (error : WireError), P (fail error : Step α)
  /-- One step after another. -/
  bind : ∀ {α β : Type} {read : Step α} {next : α → Step β}, P read → (∀ a, P (next a)) →
    P (read >>= next)
  /-- So many bytes. -/
  take : ∀ (size : Nat) (place : String), P (take size place)
  /-- An address. -/
  takeAddress : P takeAddress
  /-- The bytes of a number. -/
  takeNumber : ∀ (format : NumberFormat) (width : Nat), P (takeNumber format width)
  /-- A value from a part. -/
  within : ∀ {α : Type} (part : List UInt8) (read : Step α), P (within part read)

/-- A property that also passes to what goes on to the end of the input. -/
structure ComposesToEnd (P : ∀ {α : Type}, Step α → Prop) : Prop where
  /-- The rest of the input. -/
  takeAll : P takeAll
  /-- Items up to the end of the input. -/
  untilEmpty : ∀ {α : Type} {read : Step α}, P read → P (untilEmpty read)

namespace Composes

variable {P : ∀ {α : Type}, Step α → Prop} {read : Step α}

/-- A value computed from what is read. -/
theorem map {f : α → β} (hP : Composes P) (h : P read) : P (do return f (← read)) :=
  hP.bind h fun a => hP.done (f a)

theorem ofOption (hP : Composes P) (value : Option α) (error : WireError) :
    P (ofOption value error) := by
  cases value with
  | none => exact hP.fail error
  | some a => exact hP.done a

theorem repeated (hP : Composes P) (h : P read) : ∀ n, P (repeated read n)
  | 0 => hP.done []
  | n + 1 => hP.bind h fun _ => hP.map (repeated hP h n)

theorem readShort (hP : Composes P) (more : Nat) : ∀ place value : Nat,
    P (readShort place value more) := by
  induction more with
  | zero => exact fun _ _ => hP.fail _
  | succ more ih =>
    intro place value
    refine hP.bind (hP.take 1 "shortU16") fun bytes => ?_
    dsimp only
    split
    · exact hP.done _
    · exact ih _ _

theorem readNumber (hP : Composes P) (format : NumberFormat) : P (readNumber format) := by
  have hfloat : ∀ {format width isNaN ofBits}, P (readFloat format width isNaN ofBits) := by
    intro format width isNaN ofBits
    refine hP.bind (hP.takeNumber format width) fun bits => ?_
    split
    · exact hP.fail _
    · exact hP.done _
  cases format
  case f32 | f64 => exact hfloat
  case shortU16 => exact hP.readShort 3 0 0
  all_goals exact hP.map (hP.takeNumber _ _)

theorem readSize (hP : Composes P) (format : NumberFormat) (error : WireError) :
    P (readSize format error) :=
  hP.bind (hP.readNumber format) fun _ => hP.ofOption _ error

theorem readBytes (hP : Composes P) {length : Length}
    (hend : length = .remainder → ComposesToEnd P) (place : String) :
    P (readBytes length place) := by
  cases length with
  | prefixed format => exact hP.bind (hP.readSize format _) fun n => hP.take n place
  | fixed n => exact hP.take n place
  | remainder => exact (hend rfl).takeAll

theorem readList (hP : Composes P) {count : Length} (hend : count = .remainder → ComposesToEnd P)
    (h : P read) : P (readList count read) := by
  cases count with
  | prefixed format => exact hP.bind (hP.readSize format _) fun n => hP.repeated h n
  | fixed n => exact hP.repeated h n
  | remainder => exact (hend rfl).untilEmpty h

theorem readItems (hP : Composes P) : ∀ {items : List Codec}, (∀ item ∈ items, P item.read) →
    P (readItems items)
  | [], _ => hP.done []
  | item :: items, h => by
    have htail := readItems hP fun item hitem => h item (List.mem_cons_of_mem _ hitem)
    rw [readItems_cons]
    exact hP.bind (h item List.mem_cons_self) fun _ => hP.map htail

theorem readFields (hP : Composes P) : ∀ {fields : List FieldCodec},
    (∀ field ∈ fields, P field.codec.read) → P (readFields fields)
  | [], _ => hP.done []
  | ⟨name, codec⟩ :: fields, h => by
    have htail := readFields hP fun field hfield => h field (List.mem_cons_of_mem _ hfield)
    rw [readFields_cons]
    exact hP.bind (h ⟨name, codec⟩ List.mem_cons_self) fun _ => hP.map htail

/-- **What passes to readers passes to codecs**: a codec has a property that its parts have. The
parts of a size wrapper need not have it, since they are read from bytes that have already been
taken. -/
theorem read_of_parts (hP : Composes P) {codec : Codec}
    (hend : codec.length? = some .remainder → ComposesToEnd P)
    (hparts : codec.isWrapper = false → ∀ part ∈ codec.parts, P part.read) : P codec.read := by
  -- Reading up to the end of the input is what `hend` is for, and nothing else needs it.
  cases codec
  case number format => exact hP.readNumber format
  case boolean format =>
    rw [Codec.read_boolean]
    refine hP.bind (hP.readNumber format) fun value => ?_
    split
    · exact hP.done _
    · exact hP.done _
    · exact hP.fail _
  case string length =>
    rw [Codec.read_string]
    refine hP.bind (hP.readBytes (fun h => hend (congrArg some h)) "string") fun part => ?_
    split
    · exact hP.done _
    · exact hP.fail _
  case bytes length =>
    exact hP.map (hP.readBytes (fun h => hend (congrArg some h)) "bytes")
  case publicKey => exact hP.map hP.takeAddress
  case option item flag isFixed =>
    rw [Codec.read_option]
    refine hP.bind (hP.readNumber flag) fun value => ?_
    split
    · cases isFixed with
      | false => exact hP.done _
      | true => exact hP.bind (hP.ofOption _ _) fun size => hP.map (hP.take size _)
    · exact hP.map (hparts rfl item List.mem_cons_self)
    · exact hP.fail _
  case list item count | set item count =>
    have hitem := hparts rfl item List.mem_cons_self
    exact hP.map (hP.readList (fun h => hend (congrArg some h)) hitem)
  case typedArray item count =>
    exact hP.map (hP.repeated (hparts rfl item List.mem_cons_self) count)
  case map key value count =>
    have hkey := hparts rfl key List.mem_cons_self
    have hvalue := hparts rfl value (List.mem_cons_of_mem key List.mem_cons_self)
    rw [Codec.read_map]
    exact hP.map (hP.readList (fun h => hend (congrArg some h))
      (hP.bind hkey fun _ => hP.map hvalue))
  case tuple items => exact hP.map (hP.readItems (hparts rfl))
  case struct name fields =>
    exact hP.map (hP.readFields fun field hfield => hparts rfl _ (List.mem_map_of_mem hfield))
  case enum name size variants =>
    rw [Codec.read_enum]
    refine hP.bind (hP.readSize size _) fun index => hP.map ?_
    cases hget : variants[index]? with
    | none =>
      rw [Codec.readVariant_eq_fail hget]
      exact hP.fail _
    | some variant =>
      rw [readVariant_eq hget]
      refine hP.readItems fun item hitem => hparts rfl item ?_
      exact List.mem_flatMap.mpr ⟨variant, List.mem_of_getElem? hget, hitem⟩
  case sizePrefixed inner width =>
    rw [Codec.read_sizePrefixed]
    refine hP.bind (hP.readSize width _) fun size => ?_
    exact hP.bind (hP.take size _) fun part => hP.within part inner.read
  case fixedSize inner size =>
    rw [Codec.read_fixedSize]
    exact hP.bind (hP.take size _) fun part => hP.within part inner.read
  case defined | unknown => exact hP.fail _

end Composes

/-! ## What is left is the end of the input -/

theorem composes_takesFront : Composes TakesFront where
  done _ input := List.suffix_rfl
  fail _ input := List.suffix_rfl
  bind := by
    intro α β read next h hnext input
    rw [bind_apply]
    have hfront := h input
    cases hread : read input with
    | mk result rest =>
      rw [hread] at hfront
      cases result with
      | error error => exact hfront
      | ok a => exact (hnext a rest).trans hfront
  take size place input := by
    unfold take
    split
    · exact List.suffix_rfl
    · exact List.drop_suffix size input
  takeAddress input := by
    unfold takeAddress
    split
    · exact List.drop_suffix 32 input
    · exact List.suffix_rfl
  takeNumber format width input := by
    unfold DartClient.takeNumber
    -- Too few bytes for a number are used up.
    split
    · exact List.nil_suffix
    · exact List.drop_suffix width input
  within _ _ input := List.suffix_rfl

/-- Every pass leaves the end of its input, which is the input of the next one. -/
theorem composesToEnd_takesFront : ComposesToEnd TakesFront where
  takeAll input := List.nil_suffix
  untilEmpty := by
    intro α read h input
    induction hsize : input.length using Nat.strongRecOn generalizing input with
    | ind size ih =>
      rw [untilEmpty]
      have hfront := h input
      split
      · exact List.suffix_rfl
      · cases hread : read input with
        | mk result rest =>
          rw [hread] at hfront
          cases result with
          | error error => exact hfront
          | ok item =>
            simp only
            split
            · rename_i hlt
              have htail := (ih rest.length (hsize ▸ hlt) rest rfl).trans hfront
              cases hloop : untilEmpty read rest with
              | mk result left =>
                rw [hloop] at htail
                cases result <;> exact htail
            · exact hfront

/-! ## What is left is not looked at -/

theorem composes_looksNoFurther : Composes LooksNoFurther where
  done a := by
    intro input b rest h
    obtain ⟨hb, rfl⟩ := Prod.mk.inj h
    obtain rfl := Except.ok.inj hb
    exact ⟨[], rfl, reads_done a⟩
  fail error := by
    intro input a rest h
    cases h
  -- What the two readers take is put together, and neither looks behind it.
  bind := by
    intro α β read next h hnext input b rest hread
    obtain ⟨a, mid, hfront, hback⟩ := bind_eq_ok_iff.mp hread
    obtain ⟨front, rfl, hreads⟩ := h input a mid hfront
    obtain ⟨back, rfl, hreads'⟩ := hnext a mid b rest hback
    exact ⟨front ++ back, by rw [List.append_assoc], hreads.bind hreads'⟩
  take size place := by
    intro input part rest h
    obtain ⟨rfl, rfl⟩ := take_eq_ok_iff.mp h
    exact ⟨part, rfl, reads_take part place⟩
  takeAddress := by
    intro input address rest h
    exact ⟨address.bytes, eq_append_of_takeAddress h, reads_takeAddress address⟩
  takeNumber format width := by
    intro input n rest h
    obtain ⟨hlt, rfl⟩ := takeNumber_eq_ok h
    exact ⟨littleEndian width n, rfl, reads_takeNumber format hlt⟩
  within part read := by
    intro input a rest h
    obtain ⟨ha, rfl⟩ := Prod.mk.inj h
    exact ⟨[], rfl, reads_within ha⟩

/-- More input behind what is left is left as well. -/
theorem LooksNoFurther.read_append {read : Step α} (h : LooksNoFurther read)
    {input rest : List UInt8} {a : α} (hread : read input = (.ok a, rest)) (more : List UInt8) :
    read (input ++ more) = (.ok a, rest ++ more) := by
  obtain ⟨taken, rfl, hreads⟩ := h input a rest hread
  rw [List.append_assoc]
  exact hreads (rest ++ more)

end Step

/-! ## Codecs -/

open Step

namespace Codec

/-- A codec whose texts, bytes and items go on to the end of the input below size wrappers only. -/
inductive Delimited : Codec → Prop
  | intro {codec : Codec} (length : codec.length? ≠ some .remainder)
      (parts : codec.isWrapper = false → ∀ part ∈ codec.parts, Delimited part) : Delimited codec

theorem takesFront_read (codec : Codec) : TakesFront codec.read := by
  induction codec using induction_parts with
  | step codec ih =>
    exact composes_takesFront.read_of_parts (fun _ => composesToEnd_takesFront) fun _ => ih

theorem Delimited.looksNoFurther {codec : Codec} (h : codec.Delimited) :
    LooksNoFurther codec.read := by
  induction h with
  | intro hlength _ ih =>
    exact composes_looksNoFurther.read_of_parts (fun hend => absurd hend hlength) ih

/-- **Reading takes bytes from the front of its input and looks at nothing else.** With every codec,
what is left is the end of the input, whether the value is read or not. With a codec that goes on to
the end of its input below size wrappers only, a value that is read from an input is also read from
the input with anything behind it, and what stands behind it is left as well. -/
theorem read_locality (codec : Codec) :
    (∀ input, (codec.read input).2 <:+ input) ∧
      (codec.Delimited → ∀ input value rest more, codec.read input = (.ok value, rest) →
        codec.read (input ++ more) = (.ok value, rest ++ more)) :=
  ⟨codec.takesFront_read, fun h _ _ _ more hread => h.looksNoFurther.read_append hread more⟩

/-- Bytes up to the end of the input are others where more follows. -/
example : (Codec.bytes .remainder).read [1] = (.ok (.bytes [1]), []) ∧
    (Codec.bytes .remainder).read ([1] ++ [2]) = (.ok (.bytes [1, 2]), []) := ⟨rfl, rfl⟩

/-- A label up to the end of the bytes that belong to it, and marks behind their number. -/
def labelledMarks : Codec :=
  .struct "Parcel"
    [⟨"label", .sizePrefixed (.bytes .remainder) .u8⟩,
     ⟨"marks", .list (.number .u8) (.prefixed .u8)⟩]

theorem delimited_labelledMarks : labelledMarks.Delimited := by
  refine .intro nofun fun _ part hpart => ?_
  rcases List.mem_cons.mp hpart with rfl | hpart
  · exact .intro nofun nofun
  · obtain rfl := List.mem_singleton.mp hpart
    refine .intro nofun fun _ item hitem => ?_
    obtain rfl := List.mem_singleton.mp hitem
    exact .intro nofun nofun

/-- The label ends where its bytes end, whatever follows the marks. -/
theorem read_locality_labelledMarks :
    labelledMarks.Delimited ∧
      labelledMarks.read [1, 65, 2, 7, 8, 9] =
        (.ok (.struct [("label", .bytes [65]), ("marks", .list [.unsigned 7, .unsigned 8])]), [9]) ∧
      labelledMarks.read ([1, 65, 2, 7, 8, 9] ++ [0, 1]) =
        (.ok (.struct [("label", .bytes [65]), ("marks", .list [.unsigned 7, .unsigned 8])]),
          [9] ++ [0, 1]) :=
  ⟨delimited_labelledMarks, rfl,
    (read_locality labelledMarks).2 delimited_labelledMarks _ _ _ [0, 1] rfl⟩

end Codec

end DartClient
