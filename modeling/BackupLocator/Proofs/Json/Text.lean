import BackupLocator.Json.Reader
import BackupLocator.Json.Writer
import BackupLocator.Proofs.Text.Utf8

/-!
# A written text reads back

Each character of a written text is one code point, or two halves of a pair, behind what it is
escaped with. The reader finds the same code points, and the halves of a pair make the character
again.
-/

namespace BackupLocator.Json

/-! ## Halves of pairs -/

theorem not_isHalf_toNat (c : Char) : isHighHalf c.toNat = false ∧ isLowHalf c.toNat = false := by
  have hrange := (Text.Utf8.toNat_range c).2
  simp only [isHighHalf, isLowHalf, Bool.and_eq_false_iff, decide_eq_false_iff_not]
  omega

/-- The code point of a character makes the character. -/
theorem joinHalves_toNat (c : Char) (ns : List Nat) :
    joinHalves (c.toNat :: ns) = c :: joinHalves ns := by
  obtain ⟨hhigh, hlow⟩ := not_isHalf_toNat c
  cases ns <;> simp [joinHalves, hhigh, hlow]

/-- The halves of a character that has no 16-bit unit make the character. -/
theorem joinHalves_pair {c : Char} (h : 0x10000 ≤ c.toNat) (ns : List Nat) :
    joinHalves ((0xD800 + (c.toNat - 0x10000) / 1024) ::
      (0xDC00 + (c.toNat - 0x10000) % 1024) :: ns) = c :: joinHalves ns := by
  have hlimit : c.toNat < 0x110000 := (Text.Utf8.toNat_range c).1
  have hhigh : isHighHalf (0xD800 + (c.toNat - 0x10000) / 1024) = true := by
    simp only [isHighHalf, Bool.and_eq_true, decide_eq_true_eq]
    omega
  have hlow : isLowHalf (0xDC00 + (c.toNat - 0x10000) % 1024) = true := by
    simp only [isLowHalf, Bool.and_eq_true, decide_eq_true_eq]
    omega
  have hjoined : 0x10000 + (0xD800 + (c.toNat - 0x10000) / 1024 - 0xD800) * 0x400 +
      (0xDC00 + (c.toNat - 0x10000) % 1024 - 0xDC00) = c.toNat := by omega
  rw [joinHalves, hhigh, hlow, hjoined, Char.ofNat_toNat]
  rfl

/-! ## Characters -/

theorem codePoints_unitEscape {n : Nat} (h : n < 0x10000) (s : List Char) :
    codePoints (unitEscape n ++ s) = (codePoints s).map fun (ns, rest) => (n :: ns, rest) := by
  have hdigits : Text.hexDigits 4 n = [Text.hexDigit (n / 16 / 16 / 16 % 16),
      Text.hexDigit (n / 16 / 16 % 16), Text.hexDigit (n / 16 % 16), Text.hexDigit (n % 16)] := rfl
  have hvalue (m : Nat) : Text.hexValue? (Text.hexDigit (m % 16)) = some (m % 16) :=
    Text.hexValue?_hexDigit _ (Nat.mod_lt m (by decide))
  have hquad : ((n / 16 / 16 / 16 % 16 * 16 + n / 16 / 16 % 16) * 16 + n / 16 % 16) * 16 + n % 16 =
      n := by omega
  rw [unitEscape, hdigits]
  simp only [List.cons_append, List.nil_append, codePoints, hexQuad?, hvalue, hquad]

theorem codePoints_escape {e c : Char} (h : escaped? e = some c) (s : List Char) :
    codePoints ('\\' :: e :: s) =
      (codePoints s).map fun (ns, rest) => (c.toNat :: ns, rest) := by
  have he : e ≠ 'u' := by
    rintro rfl
    simp [escaped?] at h
  rw [codePoints, h]
  rintro a b c d t heq -
  exact he heq

theorem codePoints_shown {c : Char} (hquote : c ≠ '"') (hslash : c ≠ '\\')
    (h : 0x20 ≤ c.toNat) (s : List Char) :
    codePoints (c :: s) = (codePoints s).map fun (ns, rest) => (c.toNat :: ns, rest) := by
  rw [codePoints]
  · exact if_neg (by simp [hslash, h])
  all_goals simp_all

/-- The reader finds what makes a written character again. -/
theorem codePoints_writeChar {shown : Char → Bool} (hshown : ∀ c, shown c = true → 0x20 ≤ c.toNat)
    (c : Char) {s rest : List Char} {ns : List Nat} (h : codePoints s = .ok (ns, rest)) :
    ∃ ms, codePoints (writeChar shown c ++ s) = .ok (ms, rest) ∧
      joinHalves ms = c :: joinHalves ns := by
  have single {w : List Char}
      (hw : codePoints (w ++ s) = (codePoints s).map fun (ns, rest) => (c.toNat :: ns, rest)) :
      ∃ ms, codePoints (w ++ s) = .ok (ms, rest) ∧ joinHalves ms = c :: joinHalves ns := by
    refine ⟨c.toNat :: ns, ?_, joinHalves_toNat c ns⟩
    rw [hw, h]
    rfl
  unfold writeChar
  split
  · rename_i hc
    exact single (codePoints_escape (by simp [escaped?, hc]) s)
  rename_i hquote
  split
  · rename_i hc
    exact single (codePoints_escape (by simp [escaped?, hc]) s)
  rename_i hslash
  split
  · rename_i hc
    exact single (codePoints_shown hquote hslash (hshown c hc) s)
  -- The character is escaped: by a letter, as one unit, or as two halves.
  iterate 5
    split
    · rename_i hc
      exact single (codePoints_escape (by simp [escaped?, hc]) s)
  split
  · rename_i hunit
    exact single (codePoints_unitEscape hunit s)
  · rename_i hpair
    have hlimit : c.toNat < 0x110000 := (Text.Utf8.toNat_range c).1
    refine ⟨_, ?_, joinHalves_pair (Nat.le_of_not_lt hpair) ns⟩
    simp only [List.append_assoc]
    rw [codePoints_unitEscape (by omega), codePoints_unitEscape (by omega), h]
    rfl

/-! ## Texts -/

/-- A written text reads back, from behind its opening quote. -/
theorem text_writeText {shown : Char → Bool} (hshown : ∀ c, shown c = true → 0x20 ≤ c.toNat)
    (s : String) (rest : List Char) :
    text (s.toList.flatMap (writeChar shown) ++ '"' :: rest) = .ok (s, rest) := by
  have hpoints (t : List Char) : ∃ ns,
      codePoints (t.flatMap (writeChar shown) ++ '"' :: rest) = .ok (ns, rest) ∧
        joinHalves ns = t := by
    induction t with
    | nil => exact ⟨[], by simp [codePoints], rfl⟩
    | cons c t ih =>
      obtain ⟨ns, hns, hjoined⟩ := ih
      obtain ⟨ms, hms, hc⟩ := codePoints_writeChar hshown c hns
      refine ⟨ms, ?_, by rw [hc, hjoined]⟩
      rw [List.flatMap_cons, List.append_assoc, hms]
  obtain ⟨ns, hns, hjoined⟩ := hpoints s.toList
  rw [text, hns]
  simp [Except.map, hjoined]

end BackupLocator.Json
