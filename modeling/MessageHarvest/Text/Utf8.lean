import MessageHarvest.Text.Quoted

/-!
# UTF-8

Bytes that are no UTF-8 are either replaced, each longest part that could have started a character
by one U+FFFD, or refused with the place of the first one.
-/
namespace MessageHarvest

/-- Why bytes are no UTF-8. -/
inductive Utf8Fault where
  | badStart
  | badContinuation
  | endOfData
deriving DecidableEq

/-- The first bytes that are no UTF-8: the first of them, its position, and how many there are. -/
structure Utf8Error where
  fault : Utf8Fault
  byte : UInt8
  position : Nat
  length : Nat
deriving DecidableEq

/-- What is reported. -/
def Utf8Error.message (e : Utf8Error) : Text :=
  "'utf-8' codec can't decode ".toList ++
    (if e.length = 1 then
      "byte 0x".toList ++ Text.ofHex 2 e.byte.toNat ++ " in position ".toList ++ Text.ofNat e.position
    else
      "bytes in position ".toList ++ Text.ofNat e.position ++ '-' ::
        Text.ofNat (e.position + e.length - 1)) ++ ": ".toList ++
    match e.fault with
    | .badStart => "invalid start byte".toList
    | .badContinuation => "invalid continuation byte".toList
    | .endOfData => "unexpected end of data".toList

namespace Text

/-- The bytes of a text. -/
def utf8 (s : Text) : List UInt8 := s.flatMap String.utf8EncodeChar

/-- What a leading byte asks for: the first payload, and the ranges of the bytes to follow. -/
def utf8Lead? (b : UInt8) : Option (Nat × List (Nat × Nat)) :=
  let n := b.toNat
  let any := (0x80, 0xBF)
  if n < 0x80 then some (n, [])
  else if n < 0xC2 then none
  else if n < 0xE0 then some (n - 0xC0, [any])
  else if n = 0xE0 then some (0, [(0xA0, 0xBF), any])
  else if n = 0xED then some (0xD, [(0x80, 0x9F), any])
  else if n < 0xF0 then some (n - 0xE0, [any, any])
  else if n = 0xF0 then some (0, [(0x90, 0xBF), any, any])
  else if n < 0xF4 then some (n - 0xF0, [any, any, any])
  else if n = 0xF4 then some (4, [(0x80, 0x8F), any, any])
  else none

/-- Reads the bytes that follow a leading one: the code point, or a fault and the number of bytes
that were right. -/
def utf8Tail (code : Nat) : List (Nat × Nat) → List UInt8 → Except (Utf8Fault × Nat) Nat
  | [], _ => .ok code
  | _ :: _, [] => .error (.endOfData, 0)
  | (low, high) :: ranges, b :: bytes =>
    if low ≤ b.toNat && b.toNat ≤ high then
      match utf8Tail (code * 0x40 + (b.toNat - 0x80)) ranges bytes with
      | .ok n => .ok n
      | .error e => .error (e.1, e.2 + 1)
    else .error (.badContinuation, 0)

/-- The first character of some bytes and the number of bytes after its first, or the fault and
the number of faulty bytes after the first. -/
def utf8Step (b : UInt8) (bytes : List UInt8) : Except (Utf8Fault × Nat) (Char × Nat) :=
  match utf8Lead? b with
  | none => .error (.badStart, 0)
  | some lead => (utf8Tail lead.1 lead.2 bytes).map fun n => (Char.ofNat n, lead.2.length)

/-- The text of some bytes, faulty parts replaced. -/
def ofUtf8Lossy : List UInt8 → Text
  | [] => []
  | b :: bytes =>
    match utf8Step b bytes with
    | .ok found => found.1 :: ofUtf8Lossy (bytes.drop found.2)
    | .error fault => Char.ofNat 0xFFFD :: ofUtf8Lossy (bytes.drop fault.2)
termination_by bytes => bytes.length
decreasing_by all_goals simp only [List.length_cons, List.length_drop]; omega

/-- The text of some bytes, of which the first has the given position. -/
def ofUtf8From (position : Nat) : List UInt8 → Except Utf8Error Text
  | [] => .ok []
  | b :: bytes =>
    match utf8Step b bytes with
    | .ok found =>
      (ofUtf8From (position + 1 + found.2) (bytes.drop found.2)).map (found.1 :: ·)
    | .error fault => .error ⟨fault.1, b, position, fault.2 + 1⟩
termination_by bytes => bytes.length
decreasing_by simp only [List.length_cons, List.length_drop]; omega

/-- The text of some bytes, unless they are faulty. -/
def ofUtf8 (bytes : List UInt8) : Except Utf8Error Text := ofUtf8From 0 bytes

/-- Every line break of a carriage return, alone or with a line feed, becomes a line feed. -/
def plainLineBreaks : Text → Text
  | [] => []
  | '\r' :: '\n' :: cs => '\n' :: plainLineBreaks cs
  | '\r' :: cs => '\n' :: plainLineBreaks cs
  | c :: cs => c :: plainLineBreaks cs

end Text

end MessageHarvest
