import MessageHarvest.Text.Utf8

/-!
# Encodings that lack characters

An encoding may have all characters or some of them. Those that it has it writes as UTF-8 does, so
ASCII is one of these encodings.
-/
namespace MessageHarvest

/-- The characters that an encoding has. -/
structure Charset where
  has : Char → Bool

/-- A character that an encoding does not have, and its position in a text. -/
structure Unencodable where
  char : Char
  position : Nat
deriving DecidableEq

/-- What is reported. -/
def Unencodable.message (e : Unencodable) : Text :=
  "can't encode character ".toList ++ Text.quoted [e.char] ++ " in position ".toList ++
    Text.ofNat e.position

namespace Charset

/-- All characters. -/
def unicode : Charset := ⟨fun _ => true⟩

/-- The characters of one byte. -/
def ascii : Charset := ⟨fun c => c.toNat < 128⟩

/-- The first character of a text that the encoding does not have. -/
def lacking? (cs : Charset) (s : Text) : Option Unencodable :=
  (s.zipIdx.find? fun place => !cs.has place.1).map fun place => ⟨place.1, place.2⟩

/-- The bytes of a text. -/
def encode (cs : Charset) (s : Text) : Except Unencodable (List UInt8) :=
  match cs.lacking? s with
  | some e => .error e
  | none => .ok (Text.utf8 s)

theorem lacking?_eq_none_iff {cs : Charset} {s : Text} :
    cs.lacking? s = none ↔ ∀ c ∈ s, cs.has c = true := by
  simp only [lacking?, Option.map_eq_none_iff, List.find?_eq_none, Bool.not_eq_true',
    Bool.not_eq_false]
  constructor
  · intro h c hc
    obtain ⟨i, hi⟩ := List.mem_iff_getElem?.mp hc
    exact h (c, i) (List.mk_mem_zipIdx_iff_getElem?.mpr hi)
  · rintro h ⟨c, i⟩ hplace
    exact h c (List.mem_of_getElem? (List.mk_mem_zipIdx_iff_getElem?.mp hplace))

/-- What can be encoded is written as in UTF-8. -/
theorem encode_eq_ok_iff {cs : Charset} {s : Text} {bytes : List UInt8} :
    cs.encode s = .ok bytes ↔ (∀ c ∈ s, cs.has c = true) ∧ bytes = Text.utf8 s := by
  rw [← lacking?_eq_none_iff, encode]
  cases cs.lacking? s with
  | some e => simp
  | none => simp [eq_comm]

end Charset

end MessageHarvest
