import MessageHarvest.Proofs.CheckedScanning
import MessageHarvest.Proofs.InterpolationScan
import MessageHarvest.Proofs.ScriptQuoting

/-! # Characters written as 16-bit units

An escape with four digits writes a unit of 16 bits, and a character may take
two of them. What units stand for is told without code points in between
(`Utf16.Decodes`): a high surrogate and the low one directly behind it make a
character, and any other surrogate shows as U+FFFD. The decoder works on code
points, where a character that was written as itself is one number however
many units it has. The two agree because no such number ends or starts with
half a pair that is still free (`Utf16.Decodes.code`), so units join just where
they were written one behind the other. -/
namespace MessageHarvest.Utf16

open Text (toNat_cases)

/-- The unit is the first half of a pair. -/
def IsHigh (u : UInt16) : Prop := 0xD800 ≤ u.toNat ∧ u.toNat ≤ 0xDBFF

/-- The unit is the second half of a pair. -/
def IsLow (u : UInt16) : Prop := 0xDC00 ≤ u.toNat ∧ u.toNat ≤ 0xDFFF

/-- The units of a code point. A surrogate is its own unit. -/
def units (n : Nat) : List UInt16 :=
  if n < 0x10000 then [UInt16.ofNat n]
  else
    [UInt16.ofNat (0xD800 + (n - 0x10000) / 0x400), UInt16.ofNat (0xDC00 + (n - 0x10000) % 0x400)]

/-- The units of a text. -/
def encode (s : Text) : List UInt16 := (s.map Char.toNat).flatMap units

/-- What units stand for. -/
inductive Decodes : List UInt16 → Text → Prop
  | nil : Decodes [] []
  | unit {u : UInt16} {c : Char} {us : List UInt16} {s : Text} (hc : c.toNat = u.toNat)
      (h : Decodes us s) : Decodes (u :: us) (c :: s)
  | pair {high low : UInt16} {c : Char} {us : List UInt16} {s : Text} (hhigh : IsHigh high)
      (hlow : IsLow low)
      (hc : c.toNat = 0x10000 + (high.toNat - 0xD800) * 0x400 + (low.toNat - 0xDC00))
      (h : Decodes us s) : Decodes (high :: low :: us) (c :: s)
  | alone {u : UInt16} {us : List UInt16} {s : Text} (hu : IsHigh u ∨ IsLow u)
      (hfree : IsHigh u → ∀ low ∈ us.head?, ¬ IsLow low) (h : Decodes us s) :
      Decodes (u :: us) (Char.ofNat 0xFFFD :: s)

/-- The unit of a character is no surrogate. -/
theorem not_surrogate {u : UInt16} {c : Char} (hc : c.toNat = u.toNat) :
    ¬ (IsHigh u ∨ IsLow u) := by
  have hvalid := toNat_cases c
  unfold IsHigh IsLow
  omega

/-- Units stand for one text at most. -/
theorem Decodes.unique {us : List UInt16} {s t : Text} (hs : Decodes us s) (ht : Decodes us t) :
    s = t := by
  induction hs generalizing t with
  | nil =>
    cases ht
    rfl
  | unit hc _ ih =>
    cases ht with
    | unit hd ht => rw [Char.toNat_inj.mp (hc.trans hd.symm), ih ht]
    | pair hhigh _ _ _ => exact absurd (.inl hhigh) (not_surrogate hc)
    | alone hu _ _ => exact absurd hu (not_surrogate hc)
  | pair hhigh hlow hc _ ih =>
    cases ht with
    | unit hd _ => exact absurd (.inl hhigh) (not_surrogate hd)
    | pair _ _ hd ht => rw [Char.toNat_inj.mp (hc.trans hd.symm), ih ht]
    | alone _ hfree _ => exact absurd hlow (hfree hhigh _ rfl)
  | alone hu hfree _ ih =>
    cases ht with
    | unit hd _ => exact absurd hu (not_surrogate hd)
    | pair hhigh hlow _ _ => exact absurd hlow (hfree hhigh _ rfl)
    | alone _ _ ht => rw [ih ht]

/-! ## Code points and their units -/

theorem units_of_lt {n : Nat} (h : n < 0x10000) : units n = [UInt16.ofNat n] := if_pos h

theorem toNat_unit {n : Nat} (h : n < 0x10000) : (UInt16.ofNat n).toNat = n :=
  UInt16.toNat_ofNat_of_lt' h

theorem isHighSurrogate_iff {n : Nat} :
    Text.isHighSurrogate n = true ↔ 0xD800 ≤ n ∧ n ≤ 0xDBFF := by
  simp [Text.isHighSurrogate]

theorem isLowSurrogate_iff {n : Nat} :
    Text.isLowSurrogate n = true ↔ 0xDC00 ≤ n ∧ n ≤ 0xDFFF := by
  simp [Text.isLowSurrogate]

theorem toNat_ofNat {n : Nat} (h : n.isValidChar) : (Char.ofNat n).toNat = n := by
  rw [Char.ofNat, dif_pos h]
  rfl

/-- A code point that is no surrogate is the number of its character. -/
theorem toNat_charOf {n : Nat} (hn : n ≤ Text.maxCodePoint)
    (hplain : ¬ (0xD800 ≤ n ∧ n ≤ 0xDFFF)) : (Text.charOf n).toNat = n := by
  have hhigh : Text.isHighSurrogate n = false :=
    Bool.eq_false_iff.mpr fun h => by have := isHighSurrogate_iff.mp h; omega
  have hlow : Text.isLowSurrogate n = false :=
    Bool.eq_false_iff.mpr fun h => by have := isLowSurrogate_iff.mp h; omega
  have hvalid : n.isValidChar := by
    unfold Nat.isValidChar
    unfold Text.maxCodePoint at hn
    omega
  rw [Text.charOf, hhigh, hlow]
  exact toNat_ofNat hvalid

theorem charOf_surrogate {n : Nat} (h : 0xD800 ≤ n ∧ n ≤ 0xDFFF) :
    Text.charOf n = Char.ofNat 0xFFFD := by
  refine if_pos ?_
  rw [Bool.or_eq_true, isHighSurrogate_iff, isLowSurrogate_iff]
  omega

/-- The units of a code point stand for its character, whatever follows. Only a high surrogate must
not have a low one behind it. -/
theorem Decodes.code {n : Nat} (hn : n ≤ Text.maxCodePoint) {us : List UInt16} {s : Text}
    (h : Decodes us s)
    (hfree : Text.isHighSurrogate n = true → ∀ low ∈ us.head?, ¬ IsLow low) :
    Decodes (units n ++ us) (Text.charOf n :: s) := by
  by_cases hunit : n < 0x10000
  · have hnat := toNat_unit hunit
    rw [units_of_lt hunit, List.singleton_append]
    by_cases hsurrogate : 0xD800 ≤ n ∧ n ≤ 0xDFFF
    · rw [charOf_surrogate hsurrogate]
      refine .alone ?_ ?_ h
      · unfold IsHigh IsLow
        omega
      · intro hhigh
        rw [IsHigh, hnat] at hhigh
        exact hfree (isHighSurrogate_iff.mpr hhigh)
    · exact .unit ((toNat_charOf hn hsurrogate).trans hnat.symm) h
  · have hmax : n ≤ 0x10FFFF := hn
    have hhigh := toNat_unit (n := 0xD800 + (n - 0x10000) / 0x400) (by omega)
    have hlow := toNat_unit (n := 0xDC00 + (n - 0x10000) % 0x400) (by omega)
    rw [units, if_neg hunit]
    refine .pair ?_ ?_ ?_ h
    · rw [IsHigh, hhigh]
      omega
    · rw [IsLow, hlow]
      omega
    · rw [toNat_charOf hn (by omega), hhigh, hlow]
      omega

/-- The units of a code point that is no low surrogate do not start with one. -/
theorem not_isLow_head {n : Nat} (hn : n ≤ Text.maxCodePoint) (h : Text.isLowSurrogate n = false)
    (us : List UInt16) : ∀ low ∈ (units n ++ us).head?, ¬ IsLow low := by
  intro low hlow hlow'
  by_cases hunit : n < 0x10000
  · rw [units_of_lt hunit] at hlow
    obtain rfl := Option.some.inj hlow
    rw [IsLow, toNat_unit hunit] at hlow'
    exact Bool.eq_false_iff.mp h (isLowSurrogate_iff.mpr hlow')
  · rw [units, if_neg hunit] at hlow
    obtain rfl := Option.some.inj hlow
    have hmax : n ≤ 0x10FFFF := hn
    rw [IsLow, toNat_unit (by omega)] at hlow'
    omega

/-- **Surrogates are joined as their units stand.** -/
theorem decodes_joinSurrogates {ns : List Nat} (h : ∀ n ∈ ns, n ≤ Text.maxCodePoint) :
    Decodes (ns.flatMap units) (Text.joinSurrogates ns) := by
  fun_induction Text.joinSurrogates ns with
  | case1 high low ns hpair ih =>
    obtain ⟨hhigh, hlow⟩ := Bool.and_eq_true_iff.mp hpair
    rw [isHighSurrogate_iff] at hhigh
    rw [isLowSurrogate_iff] at hlow
    have hhighNat := toNat_unit (n := high) (by omega)
    have hlowNat := toNat_unit (n := low) (by omega)
    have hvalid : (0x10000 + (high - 0xD800) * 0x400 + (low - 0xDC00)).isValidChar := by
      unfold Nat.isValidChar
      omega
    rw [List.flatMap_cons, List.flatMap_cons, units_of_lt (by omega), units_of_lt (by omega)]
    refine .pair ?_ ?_ ?_ (ih fun n hn => h n (by simp [hn]))
    · rwa [IsHigh, hhighNat]
    · rwa [IsLow, hlowNat]
    · rw [Text.joinPair, toNat_ofNat hvalid, hhighNat, hlowNat]
  | case2 high low ns hpair ih =>
    obtain ⟨hn, hrest⟩ := List.forall_mem_cons.mp h
    rw [List.flatMap_cons]
    refine .code hn (ih hrest) fun hhigh => ?_
    rw [List.flatMap_cons]
    refine not_isLow_head (hrest low List.mem_cons_self) (Bool.eq_false_iff.mpr fun hlow => ?_) _
    exact hpair (Bool.and_eq_true_iff.mpr ⟨hhigh, hlow⟩)
  | case3 n =>
    rw [List.flatMap_singleton, ← List.append_nil (units n)]
    exact .code (h n List.mem_cons_self) .nil fun _ low hlow =>
      absurd hlow (Option.not_mem_none low)
  | case4 => exact .nil

/-- A text is what its units stand for. -/
theorem decodes_encode (s : Text) : Decodes (encode s) s := by
  have hcodes : ∀ n ∈ s.map Char.toNat, n ≤ Text.maxCodePoint :=
    List.forall_mem_map.mpr fun c _ => Text.toNat_le_maxCodePoint c
  have h := decodes_joinSurrogates hcodes
  rwa [Text.joinSurrogates_map_toNat] at h

end MessageHarvest.Utf16

namespace MessageHarvest.Script

/-! ## Escapes with four digits -/

/-- The four hexadecimal digits of a unit. -/
def unitDigits (u : UInt16) : Text :=
  [u.toNat / 0x1000, u.toNat / 0x100 % 0x10, u.toNat / 0x10 % 0x10, u.toNat % 0x10].map
    Nat.digitChar

/-- A digit in lower or in upper case. -/
def SameDigit (c d : Char) : Prop := c = d ∨ c = d.toUpper

/-- The text between quotes in which units are written by escapes, and characters of one kind as
themselves; and all its units. -/
inductive Writes (raw : Char → Prop) : Text → List UInt16 → Prop
  | nil : Writes raw [] []
  | char {c : Char} {body : Text} {us : List UInt16} (hc : raw c) (h : Writes raw body us) :
      Writes raw (c :: body) (Utf16.units c.toNat ++ us)
  | escape {u : UInt16} {digits body : Text} {us : List UInt16}
      (hdigits : List.Forall₂ SameDigit digits (unitDigits u)) (h : Writes raw body us) :
      Writes raw ('\\' :: 'u' :: (digits ++ body)) (u :: us)

theorem hexDigit_digitChar : ∀ d, d < 16 →
    Text.isHexDigit (Nat.digitChar d) = true ∧ Text.hexDigitValue (Nat.digitChar d) = d := by
  decide

theorem hexDigit_toUpper : ∀ d, d < 16 → Text.isHexDigit (Nat.digitChar d).toUpper = true ∧
    Text.hexDigitValue (Nat.digitChar d).toUpper = d := by
  decide

/-- A digit is read in either case. -/
theorem SameDigit.hexDigit {c : Char} {d : Nat} (h : SameDigit c (Nat.digitChar d)) (hd : d < 16) :
    Text.isHexDigit c = true ∧ Text.hexDigitValue c = d := by
  rcases h with rfl | rfl
  · exact hexDigit_digitChar d hd
  · exact hexDigit_toUpper d hd

/-- The digits of a unit are read as its number. -/
theorem fixedHex?_unitDigits {u : UInt16} {digits : Text}
    (h : List.Forall₂ SameDigit digits (unitDigits u)) (rest : Text) :
    Text.fixedHex? 4 (digits ++ rest) = some u.toNat ∧ (∀ c ∈ digits, Text.isHexDigit c = true) ∧
      digits.length = 4 := by
  have hlt : u.toNat < 0x10000 := u.toNat_lt
  obtain _ | ⟨h₃, _ | ⟨h₂, _ | ⟨h₁, _ | ⟨h₀, _ | _⟩⟩⟩⟩ := h
  obtain ⟨hhex₃, hval₃⟩ := h₃.hexDigit (by omega)
  obtain ⟨hhex₂, hval₂⟩ := h₂.hexDigit (by omega)
  obtain ⟨hhex₁, hval₁⟩ := h₁.hexDigit (by omega)
  obtain ⟨hhex₀, hval₀⟩ := h₀.hexDigit (by omega)
  refine ⟨?_, by simp [hhex₃, hhex₂, hhex₁, hhex₀], rfl⟩
  simp [Text.fixedHex?, Text.hexValue, hhex₃, hhex₂, hhex₁, hhex₀, hval₃, hval₂, hval₁, hval₀]
  omega

/-- An escape with four digits writes its unit, whatever follows. -/
theorem codes_unitEscape {u : UInt16} {digits : Text}
    (h : List.Forall₂ SameDigit digits (unitDigits u)) (rest : Text) :
    codes ('\\' :: 'u' :: (digits ++ rest)) = u.toNat :: codes rest := by
  obtain ⟨hvalue, hhex, hlength⟩ := fixedHex?_unitDigits h rest
  have hbraced : Text.braced? (digits ++ rest) = none := by
    obtain ⟨d, ds, rfl⟩ := List.exists_cons_of_length_pos (by omega : 0 < digits.length)
    have hd : d ≠ '{' := by
      rintro rfl
      exact absurd (hhex _ List.mem_cons_self) (by decide)
    rw [List.cons_append, Text.braced?]
    exact fun cs hcs => hd (List.cons.inj hcs).1
  have hescape : escape? ('u' :: (digits ++ rest)) = some ([u.toNat], 5) := by
    rw [escape?, hbraced, hvalue]
  have hdrop : ('u' :: (digits ++ rest)).drop 5 = rest := by
    rw [List.drop_succ_cons, ← hlength, List.drop_left]
  rw [codes, if_pos rfl, hescape]
  simp [hdrop]

namespace Writes

variable {raw : Char → Prop} {body : Text} {us : List UInt16}

/-- The code points of the text have its units. -/
theorem flatMap_codes (h : Writes raw body us) (hraw : ∀ c, raw c → c ≠ '\\') :
    (codes body).flatMap Utf16.units = us := by
  induction h with
  | nil => simp [codes]
  | char hc _ ih => rw [codes, if_neg (hraw _ hc), List.flatMap_cons, ih]
  | @escape u digits _ _ hdigits _ ih =>
    have hunit : Utf16.units u.toNat = [u] := by
      rw [Utf16.units_of_lt u.toNat_lt, UInt16.ofNat_toNat]
    rw [codes_unitEscape hdigits, List.flatMap_cons, hunit, ih, List.singleton_append]

theorem codes_le (h : Writes raw body us) (hraw : ∀ c, raw c → c ≠ '\\') :
    ∀ n ∈ codes body, n ≤ Text.maxCodePoint := by
  induction h with
  | nil => simp [codes]
  | @char c _ _ hc _ ih =>
    rw [codes, if_neg (hraw _ hc)]
    exact List.forall_mem_cons.mpr ⟨Text.toNat_le_maxCodePoint c, ih⟩
  | @escape u digits _ _ hdigits _ ih =>
    have hlt : u.toNat < 0x10000 := u.toNat_lt
    have hmax : 0x10000 ≤ Text.maxCodePoint := by decide
    rw [codes_unitEscape hdigits]
    exact List.forall_mem_cons.mpr ⟨by omega, ih⟩

/-- A dollar sign is never part of an escape. -/
theorem dollar_not_mem (h : Writes raw body us) (hraw : ∀ c, raw c → c ≠ '$') : '$' ∉ body := by
  induction h with
  | nil => exact List.not_mem_nil
  | char hc _ ih =>
    rw [List.mem_cons, not_or]
    exact ⟨(hraw _ hc).symm, ih⟩
  | @escape u digits body _ hdigits _ ih =>
    have hhex := (fixedHex?_unitDigits hdigits body).2.1
    have hnot : '$' ∉ digits := fun hmem => absurd (hhex _ hmem) (by decide)
    simp [hnot, ih]

/-- Between quotes the text is decoded by joining the surrogates among its code points. -/
theorem decode_eq (h : Writes raw body us) (q : Quoting)
    (hraw : ∀ c, raw c → c ≠ '\\' ∧ (q = .template → c ≠ '$')) :
    decode (q.mark :: (body ++ [q.mark])) = .ok (some (Text.joinSurrogates (codes body))) := by
  have hinner : Text.inner (q.mark :: (body ++ [q.mark])) = body := by simp [Text.inner]
  have hembeds : ¬ EmbedsExpression (q.mark :: (body ++ [q.mark])) := by
    rintro ⟨hmark, hembeds⟩
    have hq : q = .template := by
      cases q with
      | template => rfl
      | single => cases hmark
      | double => cases hmark
    rw [hinner] at hembeds
    exact h.dollar_not_mem (fun c hc => (hraw c hc).2 hq) (dollar_mem_of_embeds hembeds)
  have hvalid : Text.tooLarge? (codes body) = none := by
    have hle := h.codes_le fun c hc => (hraw c hc).1
    rw [← Option.not_isSome_iff_eq_none, Text.isSome_tooLarge?, List.any_eq_true]
    rintro ⟨n, hn, hlarge⟩
    exact Nat.not_lt.mpr (hle n hn) (of_decide_eq_true hlarge)
  rw [decode_of_not_embeds hembeds, hinner, hvalid]
  rfl

end Writes

/-- **Escapes with four digits are read as UTF-16.** Between quotes of any kind, units that are
written by escapes and characters that are written as themselves stand for what all their units
stand for, one text and no other. So a text is read back, whichever of its characters were written
by the escapes of their units. -/
theorem unit_escapes_decode_as_utf16 (q : Quoting) {raw : Char → Prop}
    (hraw : ∀ c, raw c → c ≠ '\\' ∧ (q = .template → c ≠ '$')) :
    (∀ body us, Writes raw body us → ∃ s, decode (q.mark :: (body ++ [q.mark])) = .ok (some s) ∧
        ∀ t, Utf16.Decodes us t ↔ t = s) ∧
      ∀ body s, Writes raw body (Utf16.encode s) →
        decode (q.mark :: (body ++ [q.mark])) = .ok (some s) := by
  have hstands : ∀ body us, Writes raw body us →
      Utf16.Decodes us (Text.joinSurrogates (codes body)) := by
    intro body us h
    have hback : ∀ c, raw c → c ≠ '\\' := fun c hc => (hraw c hc).1
    have hdecodes := Utf16.decodes_joinSurrogates (h.codes_le hback)
    rwa [h.flatMap_codes hback] at hdecodes
  refine ⟨fun body us h => ⟨_, h.decode_eq q hraw, fun t => ?_⟩, fun body s h => ?_⟩
  · constructor
    · intro ht
      exact ht.unique (hstands body us h)
    · rintro rfl
      exact hstands body us h
  · rw [h.decode_eq q hraw, (hstands body _ h).unique (Utf16.decodes_encode s)]

/-- A half before a character that has two units of its own, and a half behind it, stay alone. The
halves behind them make a pair. -/
theorem unit_escapes_decode_as_utf16_halves :
    Writes (· ≠ '\\') "\\ud83D😀\\uDE00\\uD83d\\ude00".toList
        [0xD83D, 0xD83D, 0xDE00, 0xDE00, 0xD83D, 0xDE00] ∧
      decode ('\'' :: ("\\ud83D😀\\uDE00\\uD83d\\ude00".toList ++ ['\''])) =
        .ok (some [Char.ofNat 0xFFFD, '😀', Char.ofNat 0xFFFD, '😀']) ∧
      Writes (· ≠ '\\') "😀\\uD83d\\ude00".toList (Utf16.encode ['😀', '😀']) ∧
      decode ('\'' :: ("😀\\uD83d\\ude00".toList ++ ['\''])) = .ok (some ['😀', '😀']) := by
  have hfirst : List.Forall₂ SameDigit "d83D".toList (unitDigits 0xD83D) :=
    .cons (.inl rfl) (.cons (.inl rfl) (.cons (.inl rfl) (.cons (.inr rfl) .nil)))
  have hsecond : List.Forall₂ SameDigit "DE00".toList (unitDigits 0xDE00) :=
    .cons (.inr rfl) (.cons (.inr rfl) (.cons (.inl rfl) (.cons (.inl rfl) .nil)))
  have hhigh : List.Forall₂ SameDigit "D83d".toList (unitDigits 0xD83D) :=
    .cons (.inr rfl) (.cons (.inl rfl) (.cons (.inl rfl) (.cons (.inl rfl) .nil)))
  have hlow : List.Forall₂ SameDigit "de00".toList (unitDigits 0xDE00) :=
    .cons (.inl rfl) (.cons (.inl rfl) (.cons (.inl rfl) (.cons (.inl rfl) .nil)))
  have hpair : Writes (· ≠ '\\') "\\uD83d\\ude00".toList [0xD83D, 0xDE00] :=
    .escape hhigh (.escape hlow .nil)
  have halves : Writes (· ≠ '\\') "\\ud83D😀\\uDE00\\uD83d\\ude00".toList
      [0xD83D, 0xD83D, 0xDE00, 0xDE00, 0xD83D, 0xDE00] :=
    .escape hfirst (.char (by decide) (.escape hsecond hpair))
  have htwice : Writes (· ≠ '\\') "😀\\uD83d\\ude00".toList (Utf16.encode ['😀', '😀']) :=
    .char (by decide) hpair
  have hnext : ∀ low ∈ [0xD83D, 0xDE00, 0xDE00, 0xD83D, 0xDE00].head?, ¬ Utf16.IsLow low := by
    rintro _ ⟨⟩ h
    exact absurd h.1 (by decide)
  have hstands : Utf16.Decodes [0xD83D, 0xD83D, 0xDE00, 0xDE00, 0xD83D, 0xDE00]
      [Char.ofNat 0xFFFD, '😀', Char.ofNat 0xFFFD, '😀'] :=
    .alone (.inl ⟨by decide, by decide⟩) (fun _ => hnext)
      (.pair ⟨by decide, by decide⟩ ⟨by decide, by decide⟩ rfl
        (.alone (.inr ⟨by decide, by decide⟩) (fun hhigh => absurd hhigh.2 (by decide))
          (.pair ⟨by decide, by decide⟩ ⟨by decide, by decide⟩ rfl .nil)))
  have hread := @unit_escapes_decode_as_utf16 .single (· ≠ '\\') fun c hc =>
    ⟨hc, fun hq => by cases hq⟩
  obtain ⟨s, hs, huniq⟩ := hread.1 _ _ halves
  refine ⟨halves, ?_, htwice, hread.2 _ _ htwice⟩
  rw [(huniq _).mp hstands]
  exact hs

end MessageHarvest.Script
