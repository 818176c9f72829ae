import BackupLocator.Text.Utf8

/-!
# A text reads back from its bytes

The first byte of a character says how many are to come and what the next one may be. The bytes that
a character is written as fit that, so the reader is sure of the character behind the last of them
and stands between characters again.
-/

namespace BackupLocator.Text.Utf8

/-- Characters are the code points that are no halves of pairs. -/
theorem toNat_range (c : Char) : c.toNat < 0x110000 ∧ (c.toNat < 0xD800 ∨ 0xE000 ≤ c.toNat) := by
  rcases c.valid with h | ⟨h, h'⟩
  · exact ⟨Nat.lt_trans h (by decide), .inl h⟩
  · exact ⟨h', .inr h⟩

/-! ## Single bytes -/

theorem read_first {n : Nat} (hn : n < 0x100) {st : State} (h : first n = (st, []))
    (bs : List UInt8) : read .between (UInt8.ofNat n :: bs) = read st bs := by
  simp only [read, step, UInt8.toNat_ofNat_of_lt' hn, h, List.nil_append]

/-- A byte that fits behind others, with more to come. -/
theorem read_more {owed low high seen n : Nat} (hn : n < 0x100) (hlow : low ≤ n) (hhigh : n ≤ high)
    (bs : List UInt8) :
    read (.inside (owed + 2) low high seen) (UInt8.ofNat n :: bs) =
      read (.inside (owed + 1) 0x80 0xBF (seen * 64 + (n - 0x80))) bs := by
  simp [read, step, UInt8.toNat_ofNat_of_lt' hn, hlow, hhigh]

/-- The last byte of a character. -/
theorem read_last {low high seen n : Nat} (hn : n < 0x100) (hlow : low ≤ n) (hhigh : n ≤ high)
    (bs : List UInt8) :
    read (.inside 1 low high seen) (UInt8.ofNat n :: bs) =
      some (Char.ofNat (seen * 64 + (n - 0x80))) :: read .between bs := by
  simp [read, step, UInt8.toNat_ofNat_of_lt' hn, hlow, hhigh]

/-! ## First bytes -/

theorem first_of_two {n : Nat} (h : 0x80 ≤ n) (h' : n < 0x800) :
    first (0xC0 + n / 64) = (.inside 1 0x80 0xBF (n / 64), []) := by
  unfold first
  repeat rw [if_neg (by omega)]
  rw [if_pos (by omega), Nat.add_sub_cancel_left]

/-- The second of three bytes may not say that fewer would do, nor name half of a pair. -/
theorem first_of_three {n : Nat} (h : 0x800 ≤ n) (h' : n < 0x10000)
    (hwhole : n < 0xD800 ∨ 0xE000 ≤ n) :
    ∃ low high, first (0xE0 + n / 4096) = (.inside 2 low high (n / 4096), []) ∧
      low ≤ 0x80 + n / 64 % 64 ∧ 0x80 + n / 64 % 64 ≤ high := by
  by_cases hfirst : n / 4096 = 0
  · exact ⟨0xA0, 0xBF, by rw [hfirst]; rfl, by omega, by omega⟩
  by_cases hpair : n / 4096 = 0xD
  · exact ⟨0x80, 0x9F, by rw [hpair]; rfl, by omega, by omega⟩
  · refine ⟨0x80, 0xBF, ?_, by omega, by omega⟩
    unfold first
    repeat rw [if_neg (by omega)]
    rw [if_pos (by omega), Nat.add_sub_cancel_left]

/-- The second of four bytes may not say that fewer would do, nor go beyond the last character. -/
theorem first_of_four {n : Nat} (h : 0x10000 ≤ n) (h' : n < 0x110000) :
    ∃ low high, first (0xF0 + n / 262144) = (.inside 3 low high (n / 262144), []) ∧
      low ≤ 0x80 + n / 4096 % 64 ∧ 0x80 + n / 4096 % 64 ≤ high := by
  by_cases hfirst : n / 262144 = 0
  · exact ⟨0x90, 0xBF, by rw [hfirst]; rfl, by omega, by omega⟩
  by_cases hlast : n / 262144 = 4
  · exact ⟨0x80, 0x8F, by rw [hlast]; rfl, by omega, by omega⟩
  · refine ⟨0x80, 0xBF, ?_, by omega, by omega⟩
    unfold first
    repeat rw [if_neg (by omega)]
    rw [if_pos (by omega), Nat.add_sub_cancel_left]

/-! ## Characters and texts -/

theorem read_encodeChar (c : Char) (bs : List UInt8) :
    read .between (encodeChar c ++ bs) = some c :: read .between bs := by
  obtain ⟨hlast, hwhole⟩ := toNat_range c
  have hc : Char.ofNat c.toNat = c := Char.ofNat_toNat c
  unfold encodeChar
  dsimp only
  split
  · rename_i h
    have hfirst : first c.toNat = (.between, [some c]) := by rw [first, if_pos h, hc]
    simp only [List.cons_append, List.nil_append, read, step, UInt8.toNat_ofNat_of_lt'
      (Nat.lt_trans h (by decide)), hfirst]
  split
  · rename_i h h'
    rw [List.cons_append, read_first (by omega) (first_of_two (by omega) h')]
    rw [List.cons_append, read_last (by omega) (by omega) (by omega), List.nil_append]
    rw [show c.toNat / 64 * 64 + (0x80 + c.toNat % 64 - 0x80) = c.toNat by omega, hc]
  split
  · rename_i h h'
    obtain ⟨low, high, hfirst, hlow, hhigh⟩ := first_of_three (by omega) h' hwhole
    rw [List.cons_append, read_first (by omega) hfirst]
    rw [List.cons_append, read_more (by omega) hlow hhigh]
    rw [List.cons_append, read_last (by omega) (by omega) (by omega), List.nil_append]
    rw [show (c.toNat / 4096 * 64 + (0x80 + c.toNat / 64 % 64 - 0x80)) * 64 +
      (0x80 + c.toNat % 64 - 0x80) = c.toNat by omega, hc]
  · rename_i h
    obtain ⟨low, high, hfirst, hlow, hhigh⟩ := first_of_four (by omega) hlast
    rw [List.cons_append, read_first (by omega) hfirst]
    rw [List.cons_append, read_more (by omega) hlow hhigh]
    rw [List.cons_append, read_more (by omega) (by omega) (by omega)]
    rw [List.cons_append, read_last (by omega) (by omega) (by omega), List.nil_append]
    rw [show ((c.toNat / 262144 * 64 + (0x80 + c.toNat / 4096 % 64 - 0x80)) * 64 +
      (0x80 + c.toNat / 64 % 64 - 0x80)) * 64 + (0x80 + c.toNat % 64 - 0x80) = c.toNat by omega, hc]

theorem read_encode (s : List Char) : read .between (encode s) = s.map some := by
  induction s with
  | nil => rfl
  | cons c s ih =>
    have hcons : encode (c :: s) = encodeChar c ++ encode s := rfl
    rw [hcons, read_encodeChar, ih, List.map_cons]

/-- A text reads back from its bytes. -/
theorem decode?_encode (s : List Char) : decode? (encode s) = some s := by
  rw [decode?, read_encode]
  induction s with
  | nil => rfl
  | cons c s ih => simp [ih]

theorem decodeLossy_encode (s : List Char) : decodeLossy (encode s) = s := by
  simp [decodeLossy, read_encode, Function.comp_def]

end BackupLocator.Text.Utf8
