import BackupLocator.Path

/-!
# Paths and their segments

No segment of a path is empty, a point, or holds a slash. So the segments of its text are its parts,
and the slashes in front of them are those of its anchor: a path reads back from its text. And a
name leads exactly one segment further down if it can be a segment, and only then. A path with
segments left out has no more bytes than the whole one.
-/

namespace BackupLocator

theorem Anchor.ofText_append {t : List Char} (h : t.head? ≠ some '/') (a : Anchor) :
    ofText (a.text ++ t) = a := by
  cases t with
  | nil => cases a <;> rfl
  | cons c t =>
    have hc : c ≠ '/' := by simpa using h
    cases a <;> simp [Anchor.text, Anchor.ofText, hc]

namespace Text

theorem joinWith_sublist (sep : Char) {ps qs : List (List Char)} (h : ps.Sublist qs) :
    (joinWith sep ps).Sublist (joinWith sep qs) := by
  induction h with
  | slnil => exact .refl []
  | @cons ps qs q h ih =>
    cases qs with
    | nil =>
      obtain rfl := List.sublist_nil.mp h
      exact List.nil_sublist q
    | cons q' qs => exact (ih.cons sep).trans (List.sublist_append_right q _)
  | @cons_cons ps qs p h ih =>
    cases ps with
    | nil =>
      cases qs with
      | nil => exact .refl p
      | cons q qs => exact List.sublist_append_left p _
    | cons p' ps =>
      cases qs with
      | nil => simp at h
      | cons q qs => exact (ih.cons_cons sep).append_left p

theorem utf8ByteSize_le_of_sublist {s t : List Char} (h : s.Sublist t) :
    (String.ofList s).utf8ByteSize ≤ (String.ofList t).utf8ByteSize := by
  induction h with
  | slnil => exact Nat.le_refl _
  | cons c _ ih =>
    rw [String.ofList_cons, String.utf8ByteSize_append]
    omega
  | cons_cons c _ ih =>
    rw [String.ofList_cons, String.ofList_cons, String.utf8ByteSize_append,
      String.utf8ByteSize_append]
    omega

end Text

namespace Path

/-- Slashes at the beginning of a text add no segments. -/
theorem segmentsOf_append (a : Anchor) (t : List Char) :
    segmentsOf (a.text ++ t) = segmentsOf t := by
  have hslash (t : List Char) : segmentsOf ('/' :: t) = segmentsOf t := by
    have hpieces : Text.pieces '/' ('/' :: t) = [] :: Text.pieces '/' t :=
      Text.pieces_append_cons List.not_mem_nil t
    simp [segmentsOf, hpieces]
  cases a with
  | relative => rfl
  | root => exact hslash t
  | doubleRoot => exact (hslash _).trans (hslash t)

variable {parts : List String} (h : ∀ s ∈ parts, IsSegment s)
include h

theorem segmentsOf_joinWith : segmentsOf (Text.joinWith '/' (parts.map String.toList)) = parts := by
  by_cases hnil : parts = []
  · subst hnil
    rfl
  have hcut : Text.pieces '/' (Text.joinWith '/' (parts.map String.toList)) =
      parts.map String.toList := by
    refine Text.pieces_joinWith (by simpa using hnil) ?_
    simpa using fun s hs => (h s hs).2.2
  have hkept : ∀ p ∈ parts.map String.toList, decide (p ≠ [] ∧ p ≠ ['.']) = true := by
    simp only [List.mem_map, decide_eq_true_eq]
    rintro _ ⟨s, hs, rfl⟩
    refine ⟨fun hempty => (h s hs).1 ?_, fun hpoint => (h s hs).2.1 ?_⟩
    · simpa using hempty
    · rw [← String.ofList_toList (s := s), hpoint]
  rw [segmentsOf, hcut, List.filter_eq_self.mpr hkept, List.map_map]
  simp [Function.comp_def]

theorem head?_joinWith : (Text.joinWith '/' (parts.map String.toList)).head? ≠ some '/' := by
  cases parts with
  | nil => simp [Text.joinWith]
  | cons s parts =>
    have hs := h s List.mem_cons_self
    obtain ⟨c, cs, hc⟩ : ∃ c cs, s.toList = c :: cs :=
      List.exists_cons_of_ne_nil (by simpa using hs.1)
    have hslash : c ≠ '/' := by
      rintro rfl
      exact hs.2.2 (by simp [hc])
    cases parts <;> simpa [Text.joinWith, hc] using hslash

omit h

/-- A path reads back from its text. -/
theorem ofText_text (p : Path) : ofText p.text = p := by
  have hchars : p.text.toList = p.chars := String.toList_ofList
  apply ext
  · change Anchor.ofText p.text.toList = p.anchor
    rw [hchars, chars]
    split
    · rename_i hnothing
      rw [hnothing.1]
      rfl
    · exact Anchor.ofText_append (head?_joinWith p.segments) p.anchor
  · change segmentsOf p.text.toList = p.parts
    rw [hchars, chars]
    split
    · rename_i hnothing
      rw [hnothing.2]
      rfl
    · rw [segmentsOf_append, segmentsOf_joinWith p.segments]

/-! ## Paths that continue others -/

/-- A path is another one followed by certain segments, and by nothing else. -/
def Continues (p root : Path) (names : List String) : Prop :=
  p.anchor = root.anchor ∧ p.parts = root.parts ++ names

theorem Continues.names_inj {p root : Path} {names names' : List String}
    (h : p.Continues root names) (h' : p.Continues root names') : names = names' :=
  List.append_cancel_left (h.2.symm.trans h'.2)

theorem Continues.trans {p q root : Path} {names names' : List String} (h : p.Continues q names')
    (hq : q.Continues root names) : p.Continues root (names ++ names') :=
  ⟨h.1.trans hq.1, by rw [h.2, hq.2, List.append_assoc]⟩

theorem join_continues {p q : Path} (h : q.isAbsolute = false) : (p.join q).Continues p q.parts :=
  ⟨anchor_join_of_relative h, parts_join_of_relative h⟩

theorem parts_parent (p : Path) : p.parent.parts = p.parts.dropLast := rfl

theorem anchor_parent (p : Path) : p.parent.anchor = p.anchor := rfl

/-- A text that can be a segment names the path of that one segment. -/
theorem ofText_of_isSegment {s : String} (h : IsSegment s) :
    (ofText s).isAbsolute = false ∧ (ofText s).parts = [s] := by
  have hone : ∀ w ∈ [s], IsSegment w := by simpa using h
  have hanchor : (ofText s).anchor = .relative :=
    Anchor.ofText_append (head?_joinWith hone) .relative
  exact ⟨by simp [isAbsolute, hanchor], segmentsOf_joinWith hone⟩

/-- A name leads one segment further down if and only if it can be a segment. -/
theorem child_continues_iff {p : Path} {name : String} :
    (p.child name).Continues p [name] ↔ IsSegment name := by
  constructor
  · rintro ⟨-, hparts⟩
    exact (p.child name).segments name (by simp [hparts])
  · intro h
    obtain ⟨hrelative, hparts⟩ := ofText_of_isSegment h
    exact hparts ▸ join_continues hrelative

/-- A path has a name if and only if that is its last part. -/
theorem name_eq_iff {p : Path} {s : String} (hs : s ≠ "") :
    p.name = s ↔ ∃ front, p.parts = front ++ [s] := by
  rw [name, ← List.getLast?_eq_some_iff]
  cases p.parts.getLast? with
  | none => simpa using hs.symm
  | some last => simp

/-! ## Paths with segments left out -/

/-- No path has an empty text. -/
theorem byteCount_pos (p : Path) : 0 < p.byteCount := by
  rw [byteCount, Nat.pos_iff_ne_zero, ne_eq, String.utf8ByteSize_eq_zero_iff]
  intro hempty
  have hread := ofText_text p
  rw [hempty] at hread
  subst hread
  revert hempty
  decide

/-- A path is another one with some segments left out. -/
def IsPartOf (q p : Path) : Prop := q.anchor = p.anchor ∧ q.parts.Sublist p.parts

variable {q p : Path}

namespace IsPartOf

theorem refl (p : Path) : p.IsPartOf p := ⟨rfl, .refl _⟩

theorem hasNul (h : q.IsPartOf p) (hp : p.hasNul = false) : q.hasNul = false := by
  rw [Path.hasNul, List.any_eq_false] at hp ⊢
  intro s hs
  exact hp s (h.2.subset hs)

/-- A path with segments left out has no more bytes. -/
theorem byteCount_le (h : q.IsPartOf p) : q.byteCount ≤ p.byteCount := by
  by_cases hnothing : q.anchor = .relative ∧ q.parts = []
  · -- The path of nothing is written as a point, and is no part of other texts.
    have hpoint : q.byteCount = 1 := by
      rw [byteCount, text, chars, if_pos hnothing]
      decide
    have hpos := p.byteCount_pos
    omega
  · obtain ⟨hanchor, hparts⟩ := h
    have hsomething : ¬(p.anchor = .relative ∧ p.parts = []) := by
      rintro ⟨hrelative, hempty⟩
      rw [hempty] at hparts
      exact hnothing ⟨hanchor.trans hrelative, List.sublist_nil.mp hparts⟩
    have hchars : q.chars.Sublist p.chars := by
      rw [chars, chars, if_neg hnothing, if_neg hsomething, hanchor]
      exact (Text.joinWith_sublist '/' (hparts.map _)).append_left _
    exact Text.utf8ByteSize_le_of_sublist hchars

theorem child (h : q.IsPartOf p) (name : String) : (q.child name).IsPartOf (p.child name) := by
  rw [Path.child, Path.child]
  cases habsolute : (ofText name).isAbsolute with
  | true =>
    rw [join_of_isAbsolute habsolute, join_of_isAbsolute habsolute]
    exact .refl _
  | false =>
    obtain ⟨hanchor, hparts⟩ := join_continues (p := q) habsolute
    obtain ⟨hanchor', hparts'⟩ := join_continues (p := p) habsolute
    refine ⟨by rw [hanchor, hanchor', h.1], ?_⟩
    rw [hparts, hparts']
    exact h.2.append_right _

end IsPartOf

theorem Continues.isPartOf {root : Path} {names : List String} (h : p.Continues root names) :
    root.IsPartOf p := by
  refine ⟨h.1.symm, ?_⟩
  rw [h.2]
  exact List.sublist_append_left _ _

end Path

end BackupLocator
