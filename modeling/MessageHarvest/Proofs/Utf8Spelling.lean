import MessageHarvest.Text.Utf8
import Mathlib.Data.List.Basic

/-! # Bytes that are UTF-8

A reader of bytes takes a leading byte, the payload it brings, and a range for
each byte to follow. Beside it stands what it has to recognise: the spellings
of the characters by one to four bytes (`Spelled`). Every character has one
spelling, which is the one it is written by, and the reader takes a spelling
wherever it stands and nothing else. So bytes can be read just if they were
written (`ofUtf8_eq_ok_iff`). -/
namespace MessageHarvest.Text

/-! ## Spellings -/

/-- A byte after the first of a character. -/
def Follows (b : UInt8) : Prop := 0x80 ≤ b.toNat ∧ b.toNat ≤ 0xBF

/-- The number that a leading byte and the one after it write, where the leading one counts from
the given base. -/
def joined (base : Nat) (a b : UInt8) : Nat := (a.toNat - base) * 0x40 + (b.toNat - 0x80)

/-- The bytes of one character and its code point, by the number of bytes. A spelling is not longer
than it need be, and there is none of a surrogate or of a number beyond the last code point. -/
inductive Spelled : List UInt8 → Nat → Prop
  | one {a : UInt8} (ha : a.toNat < 0x80) : Spelled [a] a.toNat
  | two {a b : UInt8} (ha : 0xC2 ≤ a.toNat ∧ a.toNat < 0xE0) (hb : Follows b) :
    Spelled [a, b] (joined 0xC0 a b)
  | three {a b c : UInt8} (ha : 0xE0 ≤ a.toNat ∧ a.toNat < 0xF0) (hb : Follows b) (hc : Follows c)
    (hlong : 0x20 ≤ joined 0xE0 a b)
    (hscalar : joined 0xE0 a b < 0x360 ∨ 0x380 ≤ joined 0xE0 a b) :
    Spelled [a, b, c] (joined 0xE0 a b * 0x40 + (c.toNat - 0x80))
  | four {a b c d : UInt8} (ha : 0xF0 ≤ a.toNat) (hb : Follows b) (hc : Follows c) (hd : Follows d)
    (hlong : 0x10 ≤ joined 0xF0 a b) (hlast : joined 0xF0 a b < 0x110) :
    Spelled [a, b, c, d]
      ((joined 0xF0 a b * 0x40 + (c.toNat - 0x80)) * 0x40 + (d.toNat - 0x80))

theorem Spelled.isValidChar {bytes : List UInt8} {n : Nat} (h : Spelled bytes n) :
    n.isValidChar := by
  cases h with
  | one ha => exact .inl (by omega)
  | two ha hb =>
    unfold Follows at hb
    unfold joined
    exact .inl (by omega)
  | three ha hb hc hlong hscalar =>
    unfold Follows at hb hc
    unfold Nat.isValidChar joined at *
    omega
  | four ha hb hc hd hlong hlast =>
    unfold Follows at hc hd
    exact .inr ⟨by omega, by omega⟩

theorem toNat_byte {n : Nat} (h : n < 256) : (UInt8.ofNat n).toNat = n := by
  rw [UInt8.toNat_ofNat', Nat.mod_eq_of_lt h]

theorem eq_byte {b : UInt8} {n : Nat} (h : n = b.toNat) : UInt8.ofNat n = b := by
  rw [h, UInt8.ofNat_toNat]

theorem utf8EncodeChar_eq (c : Char) :
    String.utf8EncodeChar c =
      if c.toNat ≤ 0x7F then [UInt8.ofNat c.toNat]
      else if c.toNat ≤ 0x7FF then
        [UInt8.ofNat (c.toNat / 64 % 32 + 192), UInt8.ofNat (c.toNat % 64 + 128)]
      else if c.toNat ≤ 0xFFFF then
        [UInt8.ofNat (c.toNat / 4096 % 16 + 224), UInt8.ofNat (c.toNat / 64 % 64 + 128),
          UInt8.ofNat (c.toNat % 64 + 128)]
      else
        [UInt8.ofNat (c.toNat / 262144 % 8 + 240), UInt8.ofNat (c.toNat / 4096 % 64 + 128),
          UInt8.ofNat (c.toNat / 64 % 64 + 128), UInt8.ofNat (c.toNat % 64 + 128)] := rfl

/-- A character has one spelling. -/
theorem Spelled.eq_encode {bytes : List UInt8} {c : Char} (h : Spelled bytes c.toNat) :
    bytes = String.utf8EncodeChar c := by
  rw [utf8EncodeChar_eq]
  generalize c.toNat = v at h
  cases h with
  | one ha => rw [if_pos (by omega), UInt8.ofNat_toNat]
  | @two a b ha hb =>
    unfold Follows at hb
    unfold joined
    rw [if_neg (by omega), if_pos (by omega), eq_byte (b := a) (by omega),
      eq_byte (b := b) (by omega)]
  | @three a b c ha hb hc hlong hscalar =>
    unfold Follows at hb hc
    unfold joined at hlong ⊢
    rw [if_neg (by omega), if_neg (by omega), if_pos (by omega), eq_byte (b := a) (by omega),
      eq_byte (b := b) (by omega), eq_byte (b := c) (by omega)]
  | @four a b c d ha hb hc hd hlong hlast =>
    unfold Follows at hb hc hd
    unfold joined at hlong hlast ⊢
    rw [if_neg (by omega), if_neg (by omega), if_neg (by omega), eq_byte (b := a) (by omega),
      eq_byte (b := b) (by omega), eq_byte (b := c) (by omega), eq_byte (b := d) (by omega)]

theorem follows_byte (n : Nat) : Follows (UInt8.ofNat (n % 64 + 128)) := by
  unfold Follows
  rw [toNat_byte (by omega)]
  omega

theorem joined_byte (n base : Nat) (h : n + base < 256) (m : Nat) :
    joined base (UInt8.ofNat (n + base)) (UInt8.ofNat (m % 64 + 128)) = n * 64 + m % 64 := by
  unfold joined
  rw [toNat_byte h, toNat_byte (by omega), Nat.add_sub_cancel, Nat.add_sub_cancel]

/-- Every character has a spelling. -/
theorem spelled_encodeChar (c : Char) : Spelled (String.utf8EncodeChar c) c.toNat := by
  have hvalid : c.toNat < 0xD800 ∨ 0xDFFF < c.toNat ∧ c.toNat < 0x110000 := c.valid
  rw [utf8EncodeChar_eq]
  generalize c.toNat = v at hvalid
  have hpayload : ∀ n, (UInt8.ofNat (n % 64 + 128)).toNat - 0x80 = n % 64 := fun n => by
    rw [toNat_byte (by omega), Nat.add_sub_cancel]
  split
  · have ha : (UInt8.ofNat v).toNat = v := toNat_byte (by omega)
    have h := Spelled.one (a := UInt8.ofNat v) (by omega)
    rwa [ha] at h
  · split
    · have ha : (UInt8.ofNat (v / 64 % 32 + 192)).toNat = v / 64 % 32 + 192 := toNat_byte (by omega)
      have h := Spelled.two (a := UInt8.ofNat (v / 64 % 32 + 192)) (by omega) (follows_byte v)
      have hv : v / 64 % 32 * 64 + v % 64 = v := by omega
      rwa [joined_byte _ 192 (by omega), hv] at h
    · split
      · have ha : (UInt8.ofNat (v / 4096 % 16 + 224)).toNat = v / 4096 % 16 + 224 :=
          toNat_byte (by omega)
        have hj := joined_byte (v / 4096 % 16) 224 (by omega) (v / 64)
        have h := Spelled.three (a := UInt8.ofNat (v / 4096 % 16 + 224)) (by omega)
          (follows_byte (v / 64)) (follows_byte v) (by omega) (by omega)
        have hv : (v / 4096 % 16 * 64 + v / 64 % 64) * 64 + v % 64 = v := by omega
        rwa [hj, hpayload, hv] at h
      · have ha : (UInt8.ofNat (v / 262144 % 8 + 240)).toNat = v / 262144 % 8 + 240 :=
          toNat_byte (by omega)
        have hj := joined_byte (v / 262144 % 8) 240 (by omega) (v / 4096)
        have h := Spelled.four (a := UInt8.ofNat (v / 262144 % 8 + 240)) (by omega)
          (follows_byte (v / 4096)) (follows_byte (v / 64)) (follows_byte v) (by omega) (by omega)
        have hv : ((v / 262144 % 8 * 64 + v / 4096 % 64) * 64 + v / 64 % 64) * 64 + v % 64 = v := by
          omega
        rwa [hj, hpayload, hpayload, hv] at h

/-! ## Reading one character -/

theorem utf8Tail_cons_eq_ok_iff {code low high n : Nat} {ranges : List (Nat × Nat)}
    {bytes : List UInt8} :
    utf8Tail code ((low, high) :: ranges) bytes = .ok n ↔
      ∃ b rest, bytes = b :: rest ∧ (low ≤ b.toNat ∧ b.toNat ≤ high) ∧
        utf8Tail (code * 0x40 + (b.toNat - 0x80)) ranges rest = .ok n := by
  cases bytes with
  | nil => simp [utf8Tail]
  | cons b rest =>
    rw [utf8Tail]
    by_cases hb : low ≤ b.toNat ∧ b.toNat ≤ high
    · rw [if_pos (by simpa using hb)]
      cases htail : utf8Tail (code * 0x40 + (b.toNat - 0x80)) ranges rest with
      | ok m => simp [hb, htail]
      | error e => simp [hb, htail]
    · rw [if_neg (by simpa using hb)]
      simp [hb]

/-- The second byte of a character of three is bound by the first one. -/
theorem utf8Lead?_three {a : UInt8} (ha : 0xE0 ≤ a.toNat ∧ a.toNat < 0xF0) :
    ∃ low high, utf8Lead? a = some (a.toNat - 0xE0, [(low, high), (0x80, 0xBF)]) ∧
      ∀ b : UInt8, low ≤ b.toNat ∧ b.toNat ≤ high ↔ Follows b ∧
        0x20 ≤ joined 0xE0 a b ∧ (joined 0xE0 a b < 0x360 ∨ 0x380 ≤ joined 0xE0 a b) := by
  unfold utf8Lead? Follows joined
  dsimp only
  rw [if_neg (by omega), if_neg (by omega), if_neg (by omega)]
  by_cases hfirst : a.toNat = 0xE0
  · rw [if_pos hfirst, hfirst]
    exact ⟨0xA0, 0xBF, rfl, fun b => by omega⟩
  · rw [if_neg hfirst]
    by_cases hsurrogate : a.toNat = 0xED
    · rw [if_pos hsurrogate, hsurrogate]
      exact ⟨0x80, 0x9F, rfl, fun b => by omega⟩
    · rw [if_neg hsurrogate, if_pos (by omega)]
      exact ⟨0x80, 0xBF, rfl, fun b => by omega⟩

/-- And so is that of a character of four. -/
theorem utf8Lead?_four {a : UInt8} (ha : 0xF0 ≤ a.toNat ∧ a.toNat ≤ 0xF4) :
    ∃ low high, utf8Lead? a = some (a.toNat - 0xF0, [(low, high), (0x80, 0xBF), (0x80, 0xBF)]) ∧
      ∀ b : UInt8, low ≤ b.toNat ∧ b.toNat ≤ high ↔ Follows b ∧
        0x10 ≤ joined 0xF0 a b ∧ joined 0xF0 a b < 0x110 := by
  unfold utf8Lead? Follows joined
  dsimp only
  rw [if_neg (by omega), if_neg (by omega), if_neg (by omega), if_neg (by omega), if_neg (by omega),
    if_neg (by omega)]
  by_cases hfirst : a.toNat = 0xF0
  · rw [if_pos hfirst, hfirst]
    exact ⟨0x90, 0xBF, rfl, fun b => by omega⟩
  · rw [if_neg hfirst]
    by_cases hlast : a.toNat = 0xF4
    · rw [if_neg (by omega), if_pos hlast, hlast]
      exact ⟨0x80, 0x8F, rfl, fun b => by omega⟩
    · rw [if_pos (by omega)]
      exact ⟨0x80, 0xBF, rfl, fun b => by omega⟩

theorem utf8Lead?_one {a : UInt8} (ha : a.toNat < 0x80) : utf8Lead? a = some (a.toNat, []) := by
  unfold utf8Lead?
  exact if_pos ha

theorem utf8Lead?_two {a : UInt8} (ha : 0xC2 ≤ a.toNat ∧ a.toNat < 0xE0) :
    utf8Lead? a = some (a.toNat - 0xC0, [(0x80, 0xBF)]) := by
  unfold utf8Lead?
  dsimp only
  rw [if_neg (by omega), if_neg (by omega), if_pos ha.2]

theorem range_of_utf8Lead? {a : UInt8} {lead : Nat × List (Nat × Nat)}
    (h : utf8Lead? a = some lead) :
    a.toNat < 0x80 ∨ (0xC2 ≤ a.toNat ∧ a.toNat < 0xE0) ∨ (0xE0 ≤ a.toNat ∧ a.toNat < 0xF0) ∨
      (0xF0 ≤ a.toNat ∧ a.toNat ≤ 0xF4) := by
  unfold utf8Lead? at h
  dsimp only at h
  by_cases hbelow : 0x80 ≤ a.toNat ∧ a.toNat < 0xC2
  · rw [if_neg (by omega), if_pos (by omega)] at h
    cases h
  · by_cases habove : 0xF4 < a.toNat
    · rw [if_neg (by omega), if_neg (by omega), if_neg (by omega), if_neg (by omega),
        if_neg (by omega), if_neg (by omega), if_neg (by omega), if_neg (by omega),
        if_neg (by omega)] at h
      cases h
    · omega

theorem utf8Step_eq_ok_iff {a : UInt8} {bytes : List UInt8} {found : Char × Nat} :
    utf8Step a bytes = .ok found ↔ ∃ lead code, utf8Lead? a = some lead ∧
      utf8Tail lead.1 lead.2 bytes = .ok code ∧ found = (Char.ofNat code, lead.2.length) := by
  unfold utf8Step
  cases utf8Lead? a with
  | none => simp
  | some lead =>
    cases htail : utf8Tail lead.1 lead.2 bytes with
    | error e => simp [htail, Except.map]
    | ok code => simp [htail, Except.map, eq_comm]

/-- A first character that is read is spelled by the bytes that it takes. -/
theorem spelled_of_utf8Step {a : UInt8} {bytes : List UInt8} {found : Char × Nat}
    (h : utf8Step a bytes = .ok found) :
    ∃ tail code, bytes = tail ++ bytes.drop found.2 ∧ found = (Char.ofNat code, tail.length) ∧
      Spelled (a :: tail) code := by
  obtain ⟨lead, code, hlead, htail, rfl⟩ := utf8Step_eq_ok_iff.mp h
  rcases range_of_utf8Lead? hlead with ha | ha | ha | ha
  · obtain rfl := Option.some.inj (hlead.symm.trans (utf8Lead?_one ha))
    obtain rfl := Except.ok.inj htail
    exact ⟨[], _, rfl, rfl, .one ha⟩
  · obtain rfl := Option.some.inj (hlead.symm.trans (utf8Lead?_two ha))
    obtain ⟨b, rest, rfl, hb, htail⟩ := utf8Tail_cons_eq_ok_iff.mp htail
    obtain rfl := Except.ok.inj htail
    exact ⟨[b], _, rfl, rfl, .two ha hb⟩
  · obtain ⟨low, high, hthree, hrange⟩ := utf8Lead?_three ha
    obtain rfl := Option.some.inj (hlead.symm.trans hthree)
    obtain ⟨b, _, rfl, hb, htail⟩ := utf8Tail_cons_eq_ok_iff.mp htail
    obtain ⟨c, rest, rfl, hc, htail⟩ := utf8Tail_cons_eq_ok_iff.mp htail
    obtain rfl := Except.ok.inj htail
    obtain ⟨hb, hlong, hscalar⟩ := (hrange b).mp hb
    exact ⟨[b, c], _, rfl, rfl, .three ha hb hc hlong hscalar⟩
  · obtain ⟨low, high, hfour, hrange⟩ := utf8Lead?_four ha
    obtain rfl := Option.some.inj (hlead.symm.trans hfour)
    obtain ⟨b, _, rfl, hb, htail⟩ := utf8Tail_cons_eq_ok_iff.mp htail
    obtain ⟨c, _, rfl, hc, htail⟩ := utf8Tail_cons_eq_ok_iff.mp htail
    obtain ⟨d, rest, rfl, hd, htail⟩ := utf8Tail_cons_eq_ok_iff.mp htail
    obtain rfl := Except.ok.inj htail
    obtain ⟨hb, hlong, hlast⟩ := (hrange b).mp hb
    exact ⟨[b, c, d], _, rfl, rfl, .four ha.1 hb hc hd hlong hlast⟩

/-- A character is read where its spelling stands, whatever follows. -/
theorem Spelled.utf8Step {a : UInt8} {tail : List UInt8} {code : Nat}
    (h : Spelled (a :: tail) code) (rest : List UInt8) :
    utf8Step a (tail ++ rest) = .ok (Char.ofNat code, tail.length) := by
  rw [utf8Step_eq_ok_iff]
  cases h with
  | one ha => exact ⟨_, _, utf8Lead?_one ha, rfl, rfl⟩
  | two ha hb =>
    exact ⟨_, _, utf8Lead?_two ha, utf8Tail_cons_eq_ok_iff.mpr ⟨_, _, rfl, hb, rfl⟩, rfl⟩
  | three ha hb hc hlong hscalar =>
    obtain ⟨low, high, hlead, hrange⟩ := utf8Lead?_three ha
    refine ⟨_, _, hlead, utf8Tail_cons_eq_ok_iff.mpr ⟨_, _, rfl, ?_, ?_⟩, rfl⟩
    · exact (hrange _).mpr ⟨hb, hlong, hscalar⟩
    · exact utf8Tail_cons_eq_ok_iff.mpr ⟨_, _, rfl, hc, rfl⟩
  | four ha hb hc hd hlong hlast =>
    obtain ⟨low, high, hlead, hrange⟩ := utf8Lead?_four ⟨ha, by unfold joined at hlast; omega⟩
    refine ⟨_, _, hlead, utf8Tail_cons_eq_ok_iff.mpr ⟨_, _, rfl, ?_, ?_⟩, rfl⟩
    · exact (hrange _).mpr ⟨hb, hlong, hlast⟩
    · refine utf8Tail_cons_eq_ok_iff.mpr ⟨_, _, rfl, hc, ?_⟩
      exact utf8Tail_cons_eq_ok_iff.mpr ⟨_, _, rfl, hd, rfl⟩

/-! ## Reading a text -/

theorem ofUtf8From_utf8 (position : Nat) (s : Text) : ofUtf8From position (utf8 s) = .ok s := by
  induction s generalizing position with
  | nil => rw [utf8, List.flatMap_nil, ofUtf8From]
  | cons c s ih =>
    have hspelled := spelled_encodeChar c
    have hc : Char.ofNat c.toNat = c := Char.ofNat_toNat c
    rw [utf8, List.flatMap_cons]
    cases hbytes : String.utf8EncodeChar c with
    | nil =>
      rw [hbytes] at hspelled
      cases hspelled
    | cons a tail =>
      rw [hbytes] at hspelled
      rw [List.cons_append, ofUtf8From, hspelled.utf8Step, hc]
      simp only [List.drop_left]
      change ((ofUtf8From _ (utf8 s)).map (c :: ·)) = _
      rw [ih]
      rfl

theorem utf8_of_ofUtf8From {position : Nat} {bytes : List UInt8} {s : Text}
    (h : ofUtf8From position bytes = .ok s) : bytes = utf8 s := by
  induction position, bytes using ofUtf8From.induct generalizing s with
  | case1 position =>
    rw [ofUtf8From] at h
    cases h
    rfl
  | case2 position a bytes found hstep ih =>
    rw [ofUtf8From, hstep] at h
    obtain ⟨tail, code, hbytes, rfl, hspelled⟩ := spelled_of_utf8Step hstep
    cases hrest : ofUtf8From (position + 1 + tail.length) (bytes.drop tail.length) with
    | error e =>
      simp only [hrest] at h
      cases h
    | ok t =>
      simp only [hrest] at h
      cases h
      have hcode : (Char.ofNat code).toNat = code := by
        rw [Char.ofNat, dif_pos hspelled.isValidChar]
        rfl
      have hchar : a :: tail = String.utf8EncodeChar (Char.ofNat code) :=
        Spelled.eq_encode (hcode.symm ▸ hspelled)
      rw [utf8, List.flatMap_cons, ← hchar, List.cons_append, hbytes, ih hrest]
      rfl
  | case3 position a bytes fault hstep =>
    rw [ofUtf8From, hstep] at h
    cases h

/-- Bytes are read as a text just if they are its UTF-8. -/
theorem ofUtf8_eq_ok_iff {bytes : List UInt8} {s : Text} :
    ofUtf8 bytes = .ok s ↔ bytes = utf8 s :=
  ⟨utf8_of_ofUtf8From, fun h => h ▸ ofUtf8From_utf8 0 s⟩

end MessageHarvest.Text
