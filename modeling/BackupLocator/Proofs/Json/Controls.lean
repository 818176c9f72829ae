import BackupLocator.Proofs.Json.RoundTrip
import BackupLocator.Terminal

/-!
# No controls in a written value

Where a style escapes control characters, the only ones in a written value break its lines. So the
text holds no control sequence of a terminal, and is echoed as it is.
-/

namespace BackupLocator

namespace Json

/-- No character of a text is a control, but for those that break a line. -/
def HasNoControls (s : List Char) : Prop := ∀ c ∈ s, c = '\n' ∨ 0x20 ≤ c.toNat

@[simp]
theorem hasNoControls_nil : HasNoControls [] := by simp [HasNoControls]

@[simp]
theorem hasNoControls_cons {c : Char} {s : List Char} :
    HasNoControls (c :: s) ↔ (c = '\n' ∨ 0x20 ≤ c.toNat) ∧ HasNoControls s :=
  List.forall_mem_cons

@[simp]
theorem hasNoControls_append {s t : List Char} :
    HasNoControls (s ++ t) ↔ HasNoControls s ∧ HasNoControls t :=
  List.forall_mem_append

/-! ## Characters, texts and numbers -/

@[simp]
theorem hasNoControls_unitEscape (n : Nat) : HasNoControls (unitEscape n) := by
  have hdigit : ∀ m < 16, 0x20 ≤ (Text.hexDigit m).toNat := by decide
  have hdigits (width n : Nat) : HasNoControls (Text.hexDigits width n) := by
    induction width generalizing n with
    | zero => exact hasNoControls_nil
    | succ width ih => simp [Text.hexDigits, ih, hdigit _ (Nat.mod_lt n (by decide))]
  simp [unitEscape, hdigits]

section

variable {shown : Char → Bool} (hshown : ∀ c, shown c = true → 0x20 ≤ c.toNat)
include hshown

theorem hasNoControls_writeChar (c : Char) : HasNoControls (writeChar shown c) := by
  unfold writeChar
  split
  · simp
  split
  · simp
  split
  · rename_i hc
    simp [hshown c hc]
  -- The character is escaped: by a letter, as one unit, or as two halves.
  iterate 5
    split
    · simp
  split <;> simp

theorem hasNoControls_writeText (s : String) : HasNoControls (writeText shown s) := by
  have hchars : HasNoControls (s.toList.flatMap (writeChar shown)) := by
    intro c hc
    obtain ⟨d, -, hd⟩ := List.mem_flatMap.mp hc
    exact hasNoControls_writeChar hshown d c hd
  simp [writeText, hchars]

end

theorem hasNoControls_writeInt (n : Int) : HasNoControls (writeInt n) := by
  have hdigits : HasNoControls (Nat.toDigits 10 n.natAbs) := by
    intro c hc
    have hdigit := isDigit_of_mem_toDigits hc
    simp only [Char.isDigit, Bool.and_eq_true, decide_eq_true_eq] at hdigit
    exact .inr (Nat.le_trans (by decide) (UInt32.le_iff_toNat_le.mp hdigit.1))
  unfold writeInt
  split <;> simp [hdigits]

/-! ## Values -/

@[simp]
theorem hasNoControls_lineBreak (style : Style) (d : Nat) :
    HasNoControls (lineBreak style d) := by
  unfold lineBreak
  split
  · exact hasNoControls_nil
  · refine hasNoControls_cons.mpr ⟨.inl rfl, fun c hc => ?_⟩
    rw [List.eq_of_mem_replicate hc]
    exact .inr (by decide)

@[simp]
theorem hasNoControls_comma (style : Style) : HasNoControls (comma style) := by
  unfold comma
  split <;> simp

mutual

theorem hasNoControls_write {style : Style} (hstyle : style.EscapesControls) (d : Nat) :
    ∀ v : Json, v.isPlain = true → HasNoControls (write style d v)
  | .null, _ => by simp [write]
  | .bool b, _ => by cases b <;> simp [write]
  | .int n, _ => hasNoControls_writeInt n
  | .float _, h => by simp [isPlain] at h
  | .str s, _ => hasNoControls_writeText hstyle s
  | .arr [], _ => by simp [write]
  | .arr (v :: vs), h => by
    have hvs : v.isPlain = true ∧ arePlain vs = true := by simpa [isPlain, arePlain] using h
    have hfirst := hasNoControls_write hstyle (d + 1) v hvs.1
    have hothers := hasNoControls_writeItems hstyle (d + 1) vs hvs.2
    simp [write, hfirst, hothers]
  | .obj [], _ => by simp [write]
  | .obj ((k, v) :: fs), h => by
    have hvs : v.isPlain = true ∧ havePlainValues fs = true := by
      simpa [havePlainValues] using (Bool.and_eq_true_iff.mp h).2
    have hname := hasNoControls_writeText hstyle k
    have hfirst := hasNoControls_write hstyle (d + 1) v hvs.1
    have hothers := hasNoControls_writeFields hstyle (d + 1) fs hvs.2
    simp [write, hname, hfirst, hothers]

theorem hasNoControls_writeItems {style : Style} (hstyle : style.EscapesControls) (d : Nat) :
    ∀ vs : List Json, arePlain vs = true → HasNoControls (writeItems style d vs)
  | [], _ => hasNoControls_nil
  | v :: vs, h => by
    rw [arePlain, Bool.and_eq_true] at h
    have hfirst := hasNoControls_write hstyle d v h.1
    have hothers := hasNoControls_writeItems hstyle d vs h.2
    simp [writeItems, hfirst, hothers]

theorem hasNoControls_writeFields {style : Style} (hstyle : style.EscapesControls) (d : Nat) :
    ∀ fs : List (String × Json), havePlainValues fs = true → HasNoControls (writeFields style d fs)
  | [], _ => hasNoControls_nil
  | (k, v) :: fs, h => by
    rw [havePlainValues, Bool.and_eq_true] at h
    have hname := hasNoControls_writeText hstyle k
    have hfirst := hasNoControls_write hstyle d v h.1
    have hothers := hasNoControls_writeFields hstyle d fs h.2
    simp [writeFields, hname, hfirst, hothers]

end

end Json

/-! ## Echoed texts -/

namespace Terminal

theorem stripSequences_eq_self {s : List Char} (h : '\x1b' ∉ s) (fuel : Nat) :
    stripSequences fuel s = s := by
  induction fuel generalizing s with
  | zero => rfl
  | succ fuel ih =>
    cases s with
    | nil => rfl
    | cons c s =>
      rw [List.mem_cons, not_or] at h
      rw [stripSequences, if_neg (Ne.symm h.1), ih h.2]

/-- A value is echoed as it is written, where the style escapes controls. -/
theorem echoed_render {style : Json.Style} (hstyle : style.EscapesControls) {v : Json}
    (h : v.isPlain = true) : echoed (Json.render style v) = Json.render style v := by
  have hescape : '\x1b' ∉ (Json.render style v).toList := by
    intro hmem
    rw [Json.render, String.toList_ofList] at hmem
    have hcontrols := Json.hasNoControls_write hstyle 0 v h _ hmem
    simp at hcontrols
  rw [echoed, stripSequences_eq_self hescape, String.ofList_toList]

end Terminal

end BackupLocator
