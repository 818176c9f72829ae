import BackupLocator.Json.LongNumber

/-!
# A written whole number reads back

The digits of a whole number begin with a zero only for zero itself. The reader takes them all, and
nothing else, where what follows would not go on with a number.
-/

namespace BackupLocator.Json

/-- What follows does not go on with a number. -/
def EndsNumber (rest : List Char) : Prop :=
  ∀ c ∈ rest.head?, c.isDigit = false ∧ c ≠ '.' ∧ c ≠ 'e' ∧ c ≠ 'E'

/-! ## Digits -/

theorem digitsValue_toDigits (n : Nat) : digitsValue (Nat.toDigits 10 n) = n := by
  have hvalue := Nat.ofDigitChars_ten_toDigits (n := n)
  rw [Nat.ofDigitChars_eq_foldl] at hvalue
  simpa only [digitsValue, Nat.mul_comm] using hvalue

theorem isDigit_of_mem_toDigits {n : Nat} {c : Char} (h : c ∈ Nat.toDigits 10 n) :
    c.isDigit = true :=
  Nat.isDigit_of_mem_toDigits (by decide) (by decide) h

/-- The digits of a number begin with another digit than zero, unless it is zero. -/
theorem exists_toDigits {n : Nat} (h : n ≠ 0) :
    ∃ c ds, Nat.toDigits 10 n = c :: ds ∧ c ≠ '0' := by
  induction n using Nat.strongRecOn with
  | _ n ih =>
    by_cases hsmall : n < 10
    · exact ⟨n.digitChar, [], Nat.toDigits_of_lt_base hsmall, by simpa using h⟩
    · -- The first digit is that of the number without its last one.
      obtain ⟨c, ds, hds, hc⟩ := ih (n / 10) (by omega) (by omega)
      refine ⟨c, ds ++ [(n % 10).digitChar], ?_, hc⟩
      rw [Nat.toDigits_of_base_le (by decide) (Nat.le_of_not_lt hsmall), hds, List.cons_append]

theorem digits_append {ds rest : List Char} (h : ∀ c ∈ ds, c.isDigit = true)
    (hends : EndsNumber rest) : digits (ds ++ rest) = (ds, rest) := by
  rw [digits, List.takeWhile_append_of_pos h, List.dropWhile_append_of_pos h]
  cases rest with
  | nil => simp
  | cons c rest => simp [(hends c rfl).1]

theorem fractionPart_of_ends {rest : List Char} (h : EndsNumber rest) :
    fractionPart rest = ([], rest) := by
  cases rest with
  | nil => rfl
  | cons c rest =>
    have hc : c ≠ '.' := (h c rfl).2.1
    simp [fractionPart, hc]

theorem exponentPart_of_ends {rest : List Char} (h : EndsNumber rest) :
    exponentPart rest = (none, rest) := by
  cases rest with
  | nil => rfl
  | cons c rest =>
    obtain ⟨-, -, he, hE⟩ := h c rfl
    simp [exponentPart, he, hE]

/-! ## Numbers -/

theorem number_toDigits (negative : Bool) {n : Nat} {rest : List Char}
    (hshort : (Nat.toDigits 10 n).length ≤ digitLimit) (hends : EndsNumber rest) :
    number negative (Nat.toDigits 10 n ++ rest) =
      .ok (.int (if negative then -n else n), rest) := by
  unfold number
  split
  rename_i whole behind hread
  -- The reader takes a zero by itself, and other digits as far as they go.
  have hdigits : Nat.toDigits 10 n = whole ∧ rest = behind := by
    by_cases hzero : n = 0
    · subst hzero
      exact Prod.mk.inj hread
    · obtain ⟨c, ds, hds, hc⟩ := exists_toDigits hzero
      split at hread
      · rename_i hbegins
        rw [hds, List.cons_append, List.cons.injEq] at hbegins
        exact absurd hbegins.1 hc
      · rw [digits_append (fun c => isDigit_of_mem_toDigits) hends] at hread
        exact Prod.mk.inj hread
  obtain ⟨rfl, rfl⟩ := hdigits
  simp [fractionPart_of_ends hends, exponentPart_of_ends hends, Nat.toDigits_ne_nil,
    Nat.not_lt.mpr hshort, digitsValue_toDigits]

/-! ## Words -/

section

variable {c : Char} (h : c.isDigit = true)
include h

theorem ne_of_isDigit {d : Char} (hd : d.isDigit = false) : c ≠ d := by
  rintro rfl
  simp [hd] at h

theorem word_of_digit (s : List Char) : word (c :: s) = number false (c :: s) := by
  have hn : 'n' ≠ c := (ne_of_isDigit h rfl).symm
  have ht : 't' ≠ c := (ne_of_isDigit h rfl).symm
  have hf : 'f' ≠ c := (ne_of_isDigit h rfl).symm
  have hN : 'N' ≠ c := (ne_of_isDigit h rfl).symm
  have hI : 'I' ≠ c := (ne_of_isDigit h rfl).symm
  have hm : '-' ≠ c := (ne_of_isDigit h rfl).symm
  simp [word, behind?, hn, ht, hf, hN, hI, hm, hm.symm]

theorem word_of_minus_digit (s : List Char) :
    word ('-' :: c :: s) = number true (c :: s) := by
  have hI : 'I' ≠ c := (ne_of_isDigit h rfl).symm
  simp [word, behind?, hI]

end

/-- A written whole number begins with its sign or a digit. -/
theorem exists_writeInt (n : Int) :
    ∃ c s, writeInt n = c :: s ∧ ∀ d : Char, d.isDigit = false → d ≠ '-' → c ≠ d := by
  obtain ⟨c, ds, hds⟩ := List.exists_cons_of_ne_nil (Nat.toDigits_ne_nil (n := n.natAbs) (b := 10))
  have hdigit : c.isDigit = true := isDigit_of_mem_toDigits (n := n.natAbs) (by simp [hds])
  rw [writeInt, hds]
  split
  · exact ⟨'-', c :: ds, rfl, fun _ _ hminus => hminus.symm⟩
  · exact ⟨c, ds, rfl, fun _ hd _ => ne_of_isDigit hdigit hd⟩

/-- A whole number that is not too long reads back. -/
theorem word_writeInt {n : Int} {rest : List Char} (h : isLong n = false)
    (hends : EndsNumber rest) : word (writeInt n ++ rest) = .ok (.int n, rest) := by
  have hshort : (Nat.toDigits 10 n.natAbs).length ≤ digitLimit := by simpa [isLong] using h
  have hnumber (negative : Bool) := number_toDigits negative hshort hends
  obtain ⟨c, ds, hds⟩ := List.exists_cons_of_ne_nil (Nat.toDigits_ne_nil (n := n.natAbs) (b := 10))
  have hdigit : c.isDigit = true := isDigit_of_mem_toDigits (n := n.natAbs) (by simp [hds])
  unfold writeInt
  rw [hds] at hnumber ⊢
  split
  · rename_i hneg
    rw [List.cons_append, List.cons_append, word_of_minus_digit hdigit, ← List.cons_append,
      hnumber true]
    simp only [if_true, Except.ok.injEq, Prod.mk.injEq, int.injEq, and_true]
    omega
  · rename_i hneg
    rw [List.cons_append, word_of_digit hdigit, ← List.cons_append, hnumber false]
    simp only [Bool.false_eq_true, if_false, Except.ok.injEq, Prod.mk.injEq, int.injEq, and_true]
    omega

end BackupLocator.Json
