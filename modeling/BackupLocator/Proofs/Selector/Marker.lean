import BackupLocator.Proofs.Path
import BackupLocator.Selector

/-!
# The mark of internal storage

A path lies on internal storage if a certain word occurs in its text. The word has no slash in it, so
it occurs in a text if and only if it occurs in a segment of it. To read a path from a text keeps the
segments; so it makes no difference whether the word is looked for before or after.
-/

namespace BackupLocator

/-! ## Words in texts -/

namespace Text

theorem occursIn_iff {w s : List Char} : occursIn w s = true ↔ w <:+: s := by
  induction s with
  | nil => simp [occursIn]
  | cons c s ih => simp [occursIn, ih, List.infix_cons_iff]

variable {sep : Char}

/-- A word without a separator begins a text if and only if it begins the first piece. -/
theorem prefix_iff_of_pieces {w s p : List Char} {ps : List (List Char)} (hsep : sep ∉ w)
    (hs : pieces sep s = p :: ps) : w <+: s ↔ w <+: p := by
  induction s generalizing w p ps with
  | nil =>
    obtain ⟨rfl, -⟩ := List.cons.inj hs
    exact Iff.rfl
  | cons c s ih =>
    cases w with
    | nil => simp
    | cons d w =>
      obtain ⟨q, qs, hq⟩ := List.exists_cons_of_ne_nil (pieces_ne_nil sep s)
      rw [pieces, hq] at hs
      dsimp only at hs
      have hd : d ≠ sep := (List.ne_of_not_mem_cons hsep).symm
      split at hs
      · rename_i hc
        obtain ⟨rfl, -⟩ := List.cons.inj hs
        simp [hc, hd]
      · obtain ⟨rfl, -⟩ := List.cons.inj hs
        rw [List.cons_prefix_cons, List.cons_prefix_cons,
          ih (List.not_mem_of_not_mem_cons hsep) hq]

/-- A word without a separator occurs in a text if and only if it occurs in a piece. -/
theorem infix_iff_exists_pieces {w : List Char} (hsep : sep ∉ w) (hw : w ≠ []) (s : List Char) :
    w <:+: s ↔ ∃ p ∈ pieces sep s, w <:+: p := by
  induction s with
  | nil => simp [pieces]
  | cons c s ih =>
    have hfirst : w <+: c :: s ↔ ∃ p ps, pieces sep (c :: s) = p :: ps ∧ w <+: p := by
      obtain ⟨p, ps, hp⟩ := List.exists_cons_of_ne_nil (pieces_ne_nil sep (c :: s))
      simp [hp, prefix_iff_of_pieces hsep hp]
    obtain ⟨q, qs, hq⟩ := List.exists_cons_of_ne_nil (pieces_ne_nil sep s)
    rw [List.infix_cons_iff, hfirst, ih, pieces, hq]
    by_cases hc : c = sep
    · simp [hc, hw]
    · simp [hc, List.infix_cons_iff, or_assoc]

end Text

/-! ## Marked paths -/

theorem Path.parts_ofText (s : String) : (ofText s).parts = segmentsOf s.toList := rfl

/-- The mark occurs in a text if and only if it occurs in a segment. -/
theorem marksEmulated_iff (s : String) :
    marksEmulated s = true ↔
      ∃ name ∈ Path.segmentsOf s.toList, emulatedMarker.toList <:+: name.toList := by
  have hslash : '/' ∉ emulatedMarker.toList := by simp [emulatedMarker]
  rw [marksEmulated, Text.occursIn_iff,
    Text.infix_iff_exists_pieces hslash (by decide) s.toList]
  constructor
  · rintro ⟨p, hp, hmark⟩
    -- An empty piece and a point are too short for the mark, so the piece is a segment.
    have hlength : 8 ≤ p.length := by simpa [emulatedMarker] using hmark.length_le
    have hkept : p ≠ [] ∧ p ≠ ['.'] := by
      constructor <;> rintro rfl <;> simp at hlength
    refine ⟨String.ofList p, ?_, by rwa [String.toList_ofList]⟩
    simp only [Path.segmentsOf, List.mem_map, List.mem_filter]
    exact ⟨p, ⟨hp, by simpa using hkept⟩, rfl⟩
  · rintro ⟨name, hname, hmark⟩
    simp only [Path.segmentsOf, List.mem_map, List.mem_filter] at hname
    obtain ⟨p, ⟨hp, -⟩, rfl⟩ := hname
    exact ⟨p, hp, by rwa [String.toList_ofList] at hmark⟩

/-- The path that a text names is marked if and only if the text is. -/
theorem isEmulated_ofText (s : String) : (Path.ofText s).isEmulated = marksEmulated s := by
  have hsegments := congrArg Path.parts (Path.ofText_text (.ofText s))
  rw [Path.parts_ofText, Path.parts_ofText] at hsegments
  rw [Path.isEmulated, Bool.eq_iff_iff, marksEmulated_iff, marksEmulated_iff, hsegments]

end BackupLocator
