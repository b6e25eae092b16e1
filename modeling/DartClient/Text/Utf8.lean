/-!
# UTF-8

Texts as bytes and back. Reading is strict: overlong forms, surrogates and values past the last
code point are refused, and a refusal says where the valid part ends and how many bytes of the
faulty sequence belong together.

## Main definitions

* `Utf8.encode`: the bytes of a text.
* `Utf8.decode`: the text of a byte string, or the first fault.
* `Utf8.Fault.message`: the wording of a fault.
-/

namespace DartClient.Text.Utf8

/-- The bytes of a sequence of characters. -/
def encodeChars (chars : List Char) : List UInt8 := chars.flatMap String.utf8EncodeChar

/-- The bytes of a text. -/
def encode (text : String) : List UInt8 := encodeChars text.toList

/-- Why a byte string is not a text: where the valid part ends, and how long the fault is. -/
structure Fault where
  /-- The number of bytes before the fault. -/
  validUpTo : Nat
  /-- The number of bytes that are wrong together; none if the input ended too early. -/
  length : Option Nat
  deriving DecidableEq, Repr

/-- The wording of a fault. -/
def Fault.message (fault : Fault) : String :=
  match fault.length with
  | some length =>
    "invalid utf-8 sequence of " ++ toString length ++ " bytes from index " ++
      toString fault.validUpTo
  | none => "incomplete utf-8 byte sequence from index " ++ toString fault.validUpTo

/-- Whether a byte continues a sequence. -/
def isContinuation (b : UInt8) : Bool := b &&& 0xC0 == 0x80

/-- Whether `second` may follow the first byte of a sequence of three. -/
def secondOfThree (first second : UInt8) : Bool :=
  if first == 0xE0 then 0xA0 ≤ second && second ≤ 0xBF
  else if first == 0xED then 0x80 ≤ second && second ≤ 0x9F
  else 0x80 ≤ second && second ≤ 0xBF

/-- Whether `second` may follow the first byte of a sequence of four. -/
def secondOfFour (first second : UInt8) : Bool :=
  if first == 0xF0 then 0x90 ≤ second && second ≤ 0xBF
  else if first == 0xF4 then 0x80 ≤ second && second ≤ 0x8F
  else 0x80 ≤ second && second ≤ 0xBF

/-- The character made of the payload bits of a first byte and of the bytes that follow it. -/
def assemble (lead : Nat) (rest : List UInt8) : Char :=
  Char.ofNat (rest.foldl (fun code b => code * 64 + (b &&& 0x3F).toNat) lead)

/-- One character and the bytes after it, or the length of the fault. -/
def decodeChar (first : UInt8) (rest : List UInt8) : Except (Option Nat) (Char × List UInt8) :=
  if first < 0x80 then .ok (assemble first.toNat [], rest)
  else if 0xC2 ≤ first && first ≤ 0xDF then
    match rest with
    | [] => .error none
    | b :: rest =>
      if isContinuation b then .ok (assemble (first &&& 0x1F).toNat [b], rest)
      else .error (some 1)
  else if 0xE0 ≤ first && first ≤ 0xEF then
    match rest with
    | [] => .error none
    | b :: rest =>
      if !secondOfThree first b then .error (some 1) else
      match rest with
      | [] => .error none
      | c :: rest =>
        if isContinuation c then .ok (assemble (first &&& 0x0F).toNat [b, c], rest)
        else .error (some 2)
  else if 0xF0 ≤ first && first ≤ 0xF4 then
    match rest with
    | [] => .error none
    | b :: rest =>
      if !secondOfFour first b then .error (some 1) else
      match rest with
      | [] => .error none
      | c :: rest =>
        if !isContinuation c then .error (some 2) else
        match rest with
        | [] => .error none
        | d :: rest =>
          if isContinuation d then .ok (assemble (first &&& 0x07).toNat [b, c, d], rest)
          else .error (some 3)
  else .error (some 1)

/-- A character takes at least its first byte. -/
theorem length_le_of_decodeChar {first : UInt8} {rest left : List UInt8} {c : Char}
    (h : decodeChar first rest = .ok (c, left)) : left.length ≤ rest.length := by
  unfold decodeChar at h
  repeat' split at h
  all_goals simp only [Except.ok.injEq, Prod.mk.injEq, reduceCtorEq] at h
  all_goals (obtain ⟨-, rfl⟩ := h; grind)

/-- The characters of a byte string whose first byte stands at index `start`. -/
def decodeFrom (start : Nat) : List UInt8 → Except Fault (List Char)
  | [] => .ok []
  | first :: rest =>
    match h : decodeChar first rest with
    | .error length => .error ⟨start, length⟩
    | .ok (c, left) =>
      (decodeFrom (start + (rest.length + 1 - left.length)) left).map (c :: ·)
  termination_by bytes => bytes.length
  decreasing_by
    have := length_le_of_decodeChar h
    simp only [List.length_cons]
    omega

/-- The text of a byte string. -/
def decode (bytes : List UInt8) : Except Fault String := (decodeFrom 0 bytes).map String.ofList

end DartClient.Text.Utf8
