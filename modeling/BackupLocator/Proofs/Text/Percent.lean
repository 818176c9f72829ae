import BackupLocator.Proofs.Text.Utf8
import BackupLocator.Text.Percent

/-!
# An escaped text reads back

A character is escaped byte by byte, each of them with two digits of either case. Letters, digits
and a few marks may stand for themselves as well. However a text has been escaped, it reads back in
one round.
-/

namespace BackupLocator.Text

/-- A character is the hexadecimal digit of a value, in lower or in upper case. -/
def IsHexDigitOf (n : Nat) (c : Char) : Prop := c = hexDigit n ∨ c = (hexDigit n).toUpper

theorem hexValue?_of_isHexDigitOf {n : Nat} {c : Char} (hn : n < 16) (h : IsHexDigitOf n c) :
    hexValue? c = some n := by
  have hupper : ∀ n < 16, hexValue? (hexDigit n).toUpper = some n := by decide
  rcases h with rfl | rfl
  · exact hexValue?_hexDigit n hn
  · exact hupper n hn

theorem isAlphanum_of_isHexDigitOf {n : Nat} {c : Char} (hn : n < 16) (h : IsHexDigitOf n c) :
    c.isAlphanum = true := by
  have hcases : ∀ n < 16,
      (hexDigit n).isAlphanum = true ∧ (hexDigit n).toUpper.isAlphanum = true := by
    decide
  rcases h with rfl | rfl
  · exact (hcases n hn).1
  · exact (hcases n hn).2

namespace Percent

/-- Whether a character may stand for itself in an escaped text. -/
def isUnreserved (c : Char) : Bool := c.isAlphanum || "_-.~!'()*".toList.contains c

/-- A text is the escape of a run of bytes: a percent sign and two digits for each of them. -/
inductive EscapesBytes : List UInt8 → List Char → Prop
  | nil : EscapesBytes [] []
  | cons {b : UInt8} {bs : List UInt8} {x y : Char} {t : List Char}
      (hx : IsHexDigitOf (b.toNat / 16) x) (hy : IsHexDigitOf (b.toNat % 16) y)
      (ht : EscapesBytes bs t) : EscapesBytes (b :: bs) ('%' :: x :: y :: t)

/-- `Escapes s t`: the text `t` is one of the ways to escape the text `s`. -/
inductive Escapes : List Char → List Char → Prop
  | nil : Escapes [] []
  /-- A character stands for itself. -/
  | raw {c : Char} {s t : List Char} (hc : isUnreserved c = true) (ht : Escapes s t) :
      Escapes (c :: s) (c :: t)
  /-- The bytes of a character are escaped. -/
  | escaped {c : Char} {s t u : List Char} (hu : EscapesBytes (Utf8.encodeChar c) u)
      (ht : Escapes s t) : Escapes (c :: s) (u ++ t)

/-! ## Reading -/

theorem bytes_cons_of_ne {c : Char} (hc : c ≠ '%') (t : List Char) :
    bytes (c :: t) = Utf8.encodeChar c ++ bytes t := by
  rw [bytes]
  rintro a b s h
  exact absurd h hc

theorem bytes_escapesBytes {bs : List UInt8} {u : List Char} (h : EscapesBytes bs u)
    (t : List Char) : bytes (u ++ t) = bs ++ bytes t := by
  induction h with
  | nil => rfl
  | @cons b bs x y u hx hy _ ih =>
    have hb : b.toNat < 256 := b.toNat_lt
    have hhigh := hexValue?_of_isHexDigitOf (by omega) hx
    have hlow := hexValue?_of_isHexDigitOf (by omega) hy
    have hwhole : b.toNat / 16 * 16 + b.toNat % 16 = b.toNat := by omega
    simp only [List.cons_append, bytes, hhigh, hlow, hwhole, UInt8.ofNat_toNat, ih]

theorem bytes_escapes {s t : List Char} (h : Escapes s t) : bytes t = Utf8.encode s := by
  induction h with
  | nil => rfl
  | @raw c s t hc _ ih =>
    have hpercent : c ≠ '%' := by
      rintro rfl
      exact absurd hc (by decide)
    rw [bytes_cons_of_ne hpercent, ih]
    rfl
  | escaped hu _ ih =>
    rw [bytes_escapesBytes hu, ih]
    rfl

/-- An escaped text reads back. -/
theorem decode_escapes {s t : List Char} (h : Escapes s t) : decode t = s := by
  rw [decode, bytes_escapes h, Utf8.decodeLossy_encode]

/-! ## The characters of an escaped text -/

theorem EscapesBytes.mem {bs : List UInt8} {u : List Char} (h : EscapesBytes bs u) {c : Char}
    (hc : c ∈ u) : c = '%' ∨ isUnreserved c = true := by
  have hdigit {n : Nat} {c : Char} (hn : n < 16) (h : IsHexDigitOf n c) :
      isUnreserved c = true := by
    simp [isUnreserved, isAlphanum_of_isHexDigitOf hn h]
  induction h with
  | nil => contradiction
  | @cons b bs x y u hx hy _ ih =>
    have hb : b.toNat < 256 := b.toNat_lt
    simp only [List.mem_cons] at hc
    rcases hc with rfl | rfl | rfl | hc
    · exact .inl rfl
    · exact .inr (hdigit (by omega) hx)
    · exact .inr (hdigit (by omega) hy)
    · exact ih hc

/-- No character of an escaped text divides an address. -/
theorem Escapes.mem {s t : List Char} (h : Escapes s t) {c : Char} (hc : c ∈ t) :
    c = '%' ∨ isUnreserved c = true := by
  induction h with
  | nil => contradiction
  | raw hraw _ ih =>
    rcases List.mem_cons.mp hc with rfl | hc
    · exact .inr hraw
    · exact ih hc
  | escaped hu _ ih =>
    rcases List.mem_append.mp hc with hc | hc
    · exact hu.mem hc
    · exact ih hc

theorem Escapes.ne_nil {s t : List Char} (h : Escapes s t) (hs : s ≠ []) : t ≠ [] := by
  rintro rfl
  exact hs (decode_escapes h).symm

end Percent

end BackupLocator.Text
