import DartClient.Wire.Error

/-!
# Steps on a byte string

A step works on a byte string and either gives a value or fails; in both cases it leaves a byte
string behind. A writer appends to the byte string, a reader removes from its front, and what a
failing step has already written or read stays written or read.

## Main definitions

* `Step`: steps, with their sequence as a monad.
* `Step.append`, `Step.take`: the elementary writer and reader.
* `Step.repeated`, `Step.untilEmpty`: one reader several times.
-/

namespace DartClient

/-- A step on a byte string, which gives a value or fails and leaves a byte string behind. -/
def Step (α : Type) : Type := List UInt8 → Except WireError α × List UInt8

namespace Step

variable {α β : Type}

/-- The step that gives a value and leaves the bytes as they are. -/
def done (a : α) : Step α := fun bytes => (.ok a, bytes)

/-- The step that fails and leaves the bytes as they are. -/
def fail (error : WireError) : Step α := fun bytes => (.error error, bytes)

/-- One step after another; a failure of the first is the failure of both. -/
def andThen (step : Step α) (next : α → Step β) : Step β := fun bytes =>
  match step bytes with
  | (.ok a, rest) => next a rest
  | (.error error, rest) => (.error error, rest)

instance : Monad Step where
  pure := done
  bind := andThen

/-- The value, or a failure where there is none. -/
def ofOption (value : Option α) (error : WireError) : Step α :=
  match value with
  | some a => done a
  | none => fail error

@[simp] theorem done_apply (a : α) (bytes : List UInt8) : done a bytes = (.ok a, bytes) := rfl

@[simp] theorem pure_apply (a : α) (bytes : List UInt8) :
    (pure a : Step α) bytes = (.ok a, bytes) := rfl

@[simp] theorem fail_apply (error : WireError) (bytes : List UInt8) :
    (fail error : Step α) bytes = (.error error, bytes) := rfl

theorem bind_apply (step : Step α) (next : α → Step β) (bytes : List UInt8) :
    (step >>= next) bytes =
      match step bytes with
      | (.ok a, rest) => next a rest
      | (.error error, rest) => (.error error, rest) := rfl

/-! ## Writing -/

/-- Writes bytes behind those already written. -/
def append (bytes : List UInt8) : Step Unit := fun out => (.ok (), out ++ bytes)

/-- Writes the items of a list, one after the other. -/
def each (write : α → Step Unit) : List α → Step Unit
  | [] => done ()
  | item :: items => andThen (write item) fun _ => each write items

@[simp] theorem append_apply (bytes out : List UInt8) :
    append bytes out = (.ok (), out ++ bytes) := rfl

/-! ## Reading -/

/-- Reads a given number of bytes, or nothing at all if there are fewer. -/
def take (size : Nat) (place : String) : Step (List UInt8) := fun input =>
  if input.length < size then (.error (.tooFewBytes place size input.length), input)
  else (.ok (input.take size), input.drop size)

/-- Reads the rest of the input. -/
def takeAll : Step (List UInt8) := fun input => (.ok input, [])

/-- Reads an address. -/
def takeAddress : Step Address := fun input =>
  if h : 32 ≤ input.length then
    (.ok ⟨input.take 32, by simp [h]⟩, input.drop 32)
  else (.error (.tooFewBytes "public key" 32 input.length), input)

/-- Reads so many items. -/
def repeated (read : Step α) : Nat → Step (List α)
  | 0 => done []
  | n + 1 => andThen read fun item => andThen (repeated read n) fun items => done (item :: items)

/-- Reads items until the input is used up. An item that takes no bytes of an input that is not
used up would be read for ever, which is reported as a failure. -/
def untilEmpty (read : Step α) (input : List UInt8) : Except WireError (List α) × List UInt8 :=
  if input.isEmpty then (.ok [], input)
  else
    match read input with
    | (.error error, rest) => (.error error, rest)
    | (.ok item, rest) =>
      if rest.length < input.length then
        match untilEmpty read rest with
        | (.ok items, rest) => (.ok (item :: items), rest)
        | (.error error, rest) => (.error error, rest)
      else (.error .endless, rest)
  termination_by input.length

/-- Reads a value from a part of the input that has already been taken. -/
def within (part : List UInt8) (read : Step α) : Step α := fun input => ((read part).1, input)

end Step

end DartClient
