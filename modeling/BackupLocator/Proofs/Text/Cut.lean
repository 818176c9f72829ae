import BackupLocator.Text.Cut

/-!
# Laws of cutting

A text is cut in two ways: into what stands before, and what behind, a separator, or into pieces.
Both ways give the same parts, no part that is next to the cut on its far side holds the separator,
and the parts with the separator between them are the text again.
-/

namespace BackupLocator.Text

variable {sep : Char} {s : List Char}

/-- The characters of a piece are characters of the text. -/
theorem mem_of_mem_pieces {p : List Char} {c : Char} (hp : p ∈ pieces sep s) (hc : c ∈ p) :
    c ∈ s :=
  (exists_mem_pieces_iff (ne_of_mem_of_not_mem hc (not_mem_of_mem_pieces hp)) s).mp ⟨p, hp, hc⟩

theorem not_mem_joinWith {c : Char} (hc : c ≠ sep) {ps : List (List Char)} (h : ∀ p ∈ ps, c ∉ p) :
    c ∉ joinWith sep ps := by
  induction ps using joinWith.induct with
  | case1 => exact List.not_mem_nil
  | case2 p => exact h p List.mem_cons_self
  | case3 p q ps ih =>
    rw [List.forall_mem_cons] at h
    exact List.not_mem_append h.1 (List.not_mem_cons_of_ne_of_not_mem hc (ih h.2))

/-- What begins with the separator does not begin in front of it. -/
theorem cons_infix_append_iff {w front : List Char} (h : sep ∉ front) :
    sep :: w <:+: front ++ s ↔ sep :: w <:+: s := by
  induction front with
  | nil => rfl
  | cons c front ih =>
    rw [← ih (List.not_mem_of_not_mem_cons h)]
    refine List.infix_cons_iff.trans (or_iff_right ?_)
    rintro ⟨rest, hrest⟩
    exact List.ne_of_not_mem_cons h (List.cons.inj hrest).1

/-! ## The first separator -/

theorem beforeFirst_of_not_mem (h : sep ∉ s) : beforeFirst sep s = s := by
  have hcut := beforeFirst_append h []
  rwa [List.append_nil, show beforeFirst sep [] = [] from rfl, List.append_nil] at hcut

theorem afterFirst_append {p : List Char} (h : sep ∉ p) (s : List Char) :
    afterFirst sep (p ++ s) = afterFirst sep s := by
  rw [afterFirst, List.dropWhile_append_of_pos, afterFirst]
  intro c hc
  simpa using ne_of_mem_of_not_mem hc h

theorem afterFirst_of_not_mem (h : sep ∉ s) : afterFirst sep s = [] := by
  have hcut := afterFirst_append h []
  rwa [List.append_nil] at hcut

theorem beforeFirst_append_cons {p : List Char} (h : sep ∉ p) (s : List Char) :
    beforeFirst sep (p ++ sep :: s) = p := by
  rw [beforeFirst_append h]
  simp [beforeFirst]

theorem afterFirst_append_cons {p : List Char} (h : sep ∉ p) (s : List Char) :
    afterFirst sep (p ++ sep :: s) = s := by
  rw [afterFirst_append h]
  simp [afterFirst]

theorem not_mem_beforeFirst (sep : Char) (s : List Char) : sep ∉ beforeFirst sep s := by
  by_cases h : sep ∈ s
  · obtain ⟨p, t, rfl, hp⟩ := List.eq_append_cons_of_mem h
    rwa [beforeFirst_append_cons hp]
  · rwa [beforeFirst_of_not_mem h]

/-- The text is its two parts around the first separator. -/
theorem beforeFirst_append_afterFirst (h : sep ∈ s) :
    beforeFirst sep s ++ sep :: afterFirst sep s = s := by
  obtain ⟨p, t, rfl, hp⟩ := List.eq_append_cons_of_mem h
  rw [beforeFirst_append_cons hp, afterFirst_append_cons hp]

theorem cutFirst_of_mem (h : sep ∈ s) :
    cutFirst sep s = [beforeFirst sep s, afterFirst sep s] := by
  obtain ⟨p, t, rfl, hp⟩ := List.eq_append_cons_of_mem h
  rw [beforeFirst_append_cons hp, afterFirst_append_cons hp]
  clear h
  induction p with
  | nil => simp [cutFirst]
  | cons c p ih =>
    have hc : c ≠ sep := Ne.symm (List.ne_of_not_mem_cons hp)
    rw [List.cons_append, cutFirst, if_neg hc, ih (List.not_mem_of_not_mem_cons hp)]

theorem cutFirst_of_not_mem (h : sep ∉ s) : cutFirst sep s = [s] := by
  induction s with
  | nil => rfl
  | cons c s ih =>
    have hc : c ≠ sep := Ne.symm (List.ne_of_not_mem_cons h)
    rw [cutFirst, if_neg hc, ih (List.not_mem_of_not_mem_cons h)]

/-- The first piece is what stands before the first separator. -/
theorem headD_cutFirst (sep : Char) (s : List Char) :
    (cutFirst sep s).headD [] = beforeFirst sep s := by
  by_cases h : sep ∈ s
  · rw [cutFirst_of_mem h]
    rfl
  · rw [cutFirst_of_not_mem h, beforeFirst_of_not_mem h]
    rfl

/-! ## The last separator

Read backwards, the last separator is the first one. -/

theorem afterLast_eq (sep : Char) (s : List Char) :
    afterLast sep s = (beforeFirst sep s.reverse).reverse := rfl

theorem not_mem_afterLast (sep : Char) (s : List Char) : sep ∉ afterLast sep s := by
  rw [afterLast_eq, List.mem_reverse]
  exact not_mem_beforeFirst sep s.reverse

theorem afterLast_of_not_mem (h : sep ∉ s) : afterLast sep s = s := by
  rw [afterLast_eq, beforeFirst_of_not_mem (by simpa using h), List.reverse_reverse]

theorem afterLast_append_of_not_mem {t : List Char} (h : sep ∉ t) (s : List Char) :
    afterLast sep (s ++ sep :: t) = t := by
  rw [afterLast_eq, List.reverse_append, List.reverse_cons, List.append_assoc,
    List.singleton_append, beforeFirst_append_cons (by simpa using h), List.reverse_reverse]

/-- A text ends with what stands behind its last separator. -/
theorem exists_append_afterLast (h : sep ∈ s) : ∃ front, s = front ++ sep :: afterLast sep s := by
  have hcut := beforeFirst_append_afterFirst (List.mem_reverse.mpr h)
  refine ⟨(afterFirst sep s.reverse).reverse, ?_⟩
  have hreversed := congrArg List.reverse hcut
  simpa [afterLast_eq] using hreversed.symm

/-- What stands behind the last separator does not depend on what is in front of another one. -/
theorem afterLast_append_cons (sep : Char) (s t : List Char) :
    afterLast sep (s ++ sep :: t) = afterLast sep t := by
  by_cases h : sep ∈ t
  · obtain ⟨front, ht⟩ := exists_append_afterLast h
    have hwhole : s ++ sep :: t = (s ++ sep :: front) ++ sep :: afterLast sep t := by
      rw [List.append_assoc, List.cons_append, ← ht]
    rw [hwhole, afterLast_append_of_not_mem (not_mem_afterLast sep t)]
  · rw [afterLast_append_of_not_mem h, afterLast_of_not_mem h]

/-- The last piece is what stands behind the last separator. -/
theorem getLastD_cutLast (sep : Char) (s : List Char) :
    (cutLast sep s).getLastD [] = afterLast sep s := by
  rw [afterLast_eq, ← headD_cutFirst, cutLast]
  cases cutFirst sep s.reverse <;> simp

end BackupLocator.Text
