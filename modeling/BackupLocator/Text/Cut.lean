/-!
# Cutting texts

Texts are cut at a separator: before its first occurrence, after its first or last one, or into
the pieces between all of them. Each function works on the list of characters of a text, by
recursion on that list, and none of them loses or adds a character other than the separator.
-/

namespace BackupLocator.Text

/-- The part before the first `sep`; the whole text where there is none. -/
def beforeFirst (sep : Char) (s : List Char) : List Char :=
  s.takeWhile (· != sep)

/-- The part after the first `sep`; empty where there is none. -/
def afterFirst (sep : Char) (s : List Char) : List Char :=
  (s.dropWhile (· != sep)).drop 1

/-- The part after the last `sep`; the whole text where there is none. -/
def afterLast (sep : Char) (s : List Char) : List Char :=
  (s.reverse.takeWhile (· != sep)).reverse

/-- The pieces before and behind the first `sep`; one piece where there is none. -/
def cutFirst (sep : Char) : List Char → List (List Char)
  | [] => [[]]
  | c :: s =>
    if c = sep then [[], s]
    else match cutFirst sep s with
    | [] => [[c]]
    | p :: ps => (c :: p) :: ps

/-- The pieces before and behind the last `sep`; one piece where there is none. -/
def cutLast (sep : Char) (s : List Char) : List (List Char) :=
  ((cutFirst sep s.reverse).map List.reverse).reverse

/-- The pieces between the separators. There is one more of them than separators. -/
def pieces (sep : Char) : List Char → List (List Char)
  | [] => [[]]
  | c :: s =>
    match pieces sep s with
    | [] => [[c]]
    | p :: ps => if c = sep then [] :: p :: ps else (c :: p) :: ps

/-- Whether `w` occurs in a text as a run of neighbouring characters. -/
def occursIn (w : List Char) : List Char → Bool
  | [] => w.isEmpty
  | c :: s => w.isPrefixOf (c :: s) || occursIn w s

/-- The texts with `sep` between each two of them. -/
def joinWith (sep : Char) : List (List Char) → List Char
  | [] => []
  | [p] => p
  | p :: q :: ps => p ++ sep :: joinWith sep (q :: ps)

/-- What two texts begin with alike. -/
def commonStart : List Char → List Char → List Char
  | c :: s, d :: t => if c = d then c :: commonStart s t else []
  | _, _ => []

theorem beforeFirst_append {sep : Char} {p : List Char} (h : sep ∉ p) (s : List Char) :
    beforeFirst sep (p ++ s) = p ++ beforeFirst sep s := by
  refine List.takeWhile_append_of_pos fun c hc => ?_
  simpa using ne_of_mem_of_not_mem hc h

theorem commonStart_self (s : List Char) : commonStart s s = s := by
  induction s with
  | nil => rfl
  | cons c s ih => rw [commonStart, if_pos rfl, ih]

theorem pieces_ne_nil (sep : Char) (s : List Char) : pieces sep s ≠ [] := by
  cases s with
  | nil => simp [pieces]
  | cons c s =>
    unfold pieces
    split
    · simp
    · split <;> simp

/-- Joining the pieces gives the text back. -/
theorem joinWith_pieces (sep : Char) (s : List Char) : joinWith sep (pieces sep s) = s := by
  induction s with
  | nil => rfl
  | cons c s ih =>
    unfold pieces
    split
    · rename_i h
      exact absurd h (pieces_ne_nil sep s)
    · rename_i p ps h
      rw [h] at ih
      split
      · rename_i hc
        simp [joinWith, ih, hc]
      · cases ps <;> simpa [joinWith] using ih

/-- No piece holds the separator. -/
theorem not_mem_of_mem_pieces {sep : Char} {s p : List Char} (h : p ∈ pieces sep s) :
    sep ∉ p := by
  induction s generalizing p with
  | nil => simp_all [pieces]
  | cons c s ih =>
    unfold pieces at h
    split at h
    · rename_i hn
      exact absurd hn (pieces_ne_nil sep s)
    · rename_i q qs hq
      have hq' : sep ∉ q := ih (by simp [hq])
      split at h
      · rcases List.mem_cons.mp h with rfl | h
        · simp
        · exact ih (hq ▸ h)
      · rename_i hc
        rcases List.mem_cons.mp h with rfl | h
        · simp [hq', Ne.symm hc]
        · exact ih (by simp [hq, h])

theorem pieces_of_not_mem {sep : Char} {p : List Char} (h : sep ∉ p) : pieces sep p = [p] := by
  induction p with
  | nil => rfl
  | cons c p ih =>
    have hc : sep ≠ c := List.ne_of_not_mem_cons h
    rw [pieces, ih (List.not_mem_of_not_mem_cons h)]
    exact if_neg hc.symm

/-- A separator between two texts keeps their pieces apart. -/
theorem pieces_append (sep : Char) (s t : List Char) :
    pieces sep (s ++ sep :: t) = pieces sep s ++ pieces sep t := by
  induction s with
  | nil =>
    obtain ⟨p, ps, ht⟩ := List.exists_cons_of_ne_nil (pieces_ne_nil sep t)
    simp [pieces, ht]
  | cons c s ih =>
    obtain ⟨p, ps, hs⟩ := List.exists_cons_of_ne_nil (pieces_ne_nil sep s)
    rw [List.cons_append, pieces, pieces, ih, hs]
    by_cases hc : c = sep <;> simp [hc]

theorem pieces_append_cons {sep : Char} {p : List Char} (h : sep ∉ p) (s : List Char) :
    pieces sep (p ++ sep :: s) = p :: pieces sep s := by
  rw [pieces_append, pieces_of_not_mem h]
  rfl

/-- Separators behind a piece only add empty pieces. -/
theorem pieces_append_replicate {sep : Char} {p : List Char} (h : sep ∉ p) (n : Nat) :
    pieces sep (p ++ List.replicate n sep) = p :: List.replicate n [] := by
  induction n generalizing p with
  | zero => simpa using pieces_of_not_mem h
  | succ n ih =>
    have hempty := ih (p := []) List.not_mem_nil
    rw [List.nil_append] at hempty
    rw [List.replicate_succ, pieces_append_cons h, hempty]
    rfl

/-- Cutting what has been joined gives the pieces back. -/
theorem pieces_joinWith {sep : Char} {ps : List (List Char)} (hne : ps ≠ [])
    (h : ∀ p ∈ ps, sep ∉ p) : pieces sep (joinWith sep ps) = ps := by
  induction ps with
  | nil => exact absurd rfl hne
  | cons p ps ih =>
    rw [List.forall_mem_cons] at h
    cases ps with
    | nil => exact pieces_of_not_mem h.1
    | cons q ps => rw [joinWith, pieces_append_cons h.1, ih (by simp) h.2]

/-- Cutting loses no character other than the separator. -/
theorem exists_mem_pieces_iff {sep c : Char} (hc : c ≠ sep) (s : List Char) :
    (∃ p ∈ pieces sep s, c ∈ p) ↔ c ∈ s := by
  induction s with
  | nil => simp [pieces]
  | cons d s ih =>
    unfold pieces
    split
    · rename_i hn
      exact absurd hn (pieces_ne_nil sep s)
    · rename_i p ps hp
      rw [hp] at ih
      split
      · rename_i hd
        simpa [hd, hc] using ih
      · simpa [or_assoc] using or_congr_right ih

end BackupLocator.Text
