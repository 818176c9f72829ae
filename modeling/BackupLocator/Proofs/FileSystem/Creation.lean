import BackupLocator.FileSystem.Directory
import BackupLocator.Proofs.FileSystem.Extension

/-!
# What making a directory does

However an attempt ends, the file system has grown by directories only, and each new one is named
by the path itself or by a path above it. Where the attempt succeeds the path is a directory. A
failure is a refusal of the system, unless the path holds a NUL: then nothing has been done.
-/

namespace BackupLocator

namespace Path

/-- The path `q` is `p` or one that its text goes through. -/
def IsAtOrAbove (q p : Path) : Prop := q.anchor = p.anchor ∧ q.parts <+: p.parts

theorem IsAtOrAbove.refl (p : Path) : p.IsAtOrAbove p := ⟨rfl, List.prefix_refl _⟩

theorem IsAtOrAbove.of_parent {q p : Path} (h : q.IsAtOrAbove p.parent) : q.IsAtOrAbove p :=
  ⟨h.1, h.2.trans (List.dropLast_prefix _)⟩

theorem hasNul_parent {p : Path} (h : p.hasNul = false) : p.parent.hasNul = false := by
  rw [hasNul, List.any_eq_false] at h ⊢
  intro s hs
  exact h s (List.dropLast_subset _ hs)

end Path

namespace FileSystem

/-- What a file system becomes by new directories that a path, or one above it, names. -/
structure Growth (fs fs' : FileSystem) (p : Path) : Prop extends Extension fs fs' where
  named : ∀ {loc}, fs.find? loc = none → fs'.find? loc ≠ none →
    ∃ q : Path, q.IsAtOrAbove p ∧ fs'.locate .throughLink q = .ok (.taken loc)

namespace Growth

theorem refl (fs : FileSystem) (p : Path) : Growth fs fs p where
  toExtension := .refl fs
  named hn hs := absurd hn hs

theorem trans {fs gs hs : FileSystem} {p : Path} (h : Growth fs gs p) (h' : Growth gs hs p) :
    Growth fs hs p where
  toExtension := h.toExtension.trans h'.toExtension
  named {loc} hn hs' := by
    by_cases hg : gs.find? loc = none
    · exact h'.named hg hs'
    · obtain ⟨q, hq, hl⟩ := h.named hn hg
      exact ⟨q, hq, h'.toExtension.locate_taken hl⟩

theorem of_parent {fs fs' : FileSystem} {p : Path} (h : Growth fs fs' p.parent) :
    Growth fs fs' p where
  toExtension := h.toExtension
  named hn hs := by
    obtain ⟨q, hq, hl⟩ := h.named hn hs
    exact ⟨q, hq.of_parent, hl⟩

end Growth

/-! ## One attempt -/

theorem makeOne_ok {fs fs' : FileSystem} {p : Path} (h : fs.makeOne p = .ok fs') :
    p.hasNul = false ∧ ∃ dir name, fs.locate .atEntry p = .ok (.free dir name) ∧
      fs' = fs.add (name :: dir) .directory := by
  unfold makeOne at h
  split at h
  · contradiction
  · rename_i hnul
    split at h
    · contradiction
    · contradiction
    · rename_i dir name hl
      split at h
      · contradiction
      · exact ⟨by simpa using hnul, dir, name, hl, (Except.ok.inj h).symm⟩

theorem makeOne_growth {fs fs' : FileSystem} {p : Path} (h : fs.makeOne p = .ok fs') :
    Growth fs fs' p := by
  obtain ⟨-, dir, name, hl, rfl⟩ := makeOne_ok h
  refine ⟨.add (locate_free hl).2, ?_⟩
  intro loc hn hs
  -- The only new place is the one that the path leads to now.
  have hloc : loc = name :: dir := by
    by_cases hne : loc = name :: dir
    · exact hne
    · rw [find?_add_ne fs hne] at hs
      exact absurd hn hs
  subst hloc
  exact ⟨p, .refl p, locate_fill (locate_throughLink hl)⟩

theorem isDirectory_of_makeOne {fs fs' : FileSystem} {p : Path} (h : fs.makeOne p = .ok fs') :
    fs'.isDirectory p = .ok true := by
  obtain ⟨hnul, dir, name, hl, rfl⟩ := makeOne_ok h
  exact isDirectory_eq_true_iff.mpr
    ⟨hnul, name :: dir, locate_fill (locate_throughLink hl), find?_add_self fs name dir _⟩

theorem makeOne_of_hasNul {fs : FileSystem} {p : Path} (h : p.hasNul = true) :
    fs.makeOne p = .error .malformed := by
  rw [makeOne, if_pos h]

theorem makeOne_of_isDirectory {fs : FileSystem} {p : Path} (h : fs.isDirectory p = .ok true) :
    fs.makeOne p = .error (.system ⟨.alreadyExists, p⟩) := by
  obtain ⟨hnul, loc, hl, -⟩ := isDirectory_eq_true_iff.mp h
  obtain ⟨loc', hl'⟩ := locate_atEntry hl
  simp [makeOne, hnul, hl']

theorem makeOne_error {fs : FileSystem} {p : Path} {e : Failure} (hnul : p.hasNul = false)
    (h : fs.makeOne p = .error e) : ∃ cause, e = .system cause := by
  unfold makeOne at h
  rw [if_neg (by simp [hnul])] at h
  split at h
  · exact ⟨_, (Except.error.inj h).symm⟩
  · exact ⟨_, (Except.error.inj h).symm⟩
  · split at h
    · exact ⟨_, (Except.error.inj h).symm⟩
    · contradiction

theorem isDirectory_error {fs : FileSystem} {p : Path} {e : Failure}
    (h : fs.isDirectory p = .error e) : ∃ cause, e = .system cause := by
  unfold isDirectory probe at h
  split at h
  · contradiction
  · split at h
    · contradiction
    · contradiction
    · exact ⟨_, (Except.error.inj h).symm⟩
    · contradiction

theorem excuse_ok {fs : FileSystem} {existOk : Bool} {p : Path} {e : Failure}
    (h : fs.excuse existOk p e = .ok ()) : fs.isDirectory p = .ok true := by
  unfold excuse at h
  split at h
  · split at h
    · split at h
      · assumption
      · contradiction
      · contradiction
    · contradiction
  · contradiction

theorem excuse_error {fs : FileSystem} {existOk : Bool} {p : Path} {cause : SystemError}
    {e : Failure} (h : fs.excuse existOk p (.system cause) = .error e) :
    ∃ cause', e = .system cause' := by
  simp only [excuse] at h
  split at h
  · split at h
    · contradiction
    · exact ⟨cause, (Except.error.inj h).symm⟩
    · rename_i probeFailure hd
      obtain ⟨cause', rfl⟩ := isDirectory_error hd
      exact ⟨cause', (Except.error.inj h).symm⟩
  · exact ⟨cause, (Except.error.inj h).symm⟩

theorem makeLeaf_growth (fs : FileSystem) (existOk : Bool) (p : Path) :
    Growth fs (fs.makeLeaf existOk p).2 p := by
  unfold makeLeaf
  split
  · rename_i fs' h
    exact makeOne_growth h
  · exact .refl fs p

theorem isDirectory_of_makeLeaf {fs : FileSystem} {existOk : Bool} {p : Path}
    (h : (fs.makeLeaf existOk p).1 = .ok ()) :
    (fs.makeLeaf existOk p).2.isDirectory p = .ok true := by
  unfold makeLeaf at h ⊢
  cases hm : fs.makeOne p with
  | ok fs' => exact isDirectory_of_makeOne hm
  | error e =>
    rw [hm] at h
    exact excuse_ok h

theorem makeLeaf_error {fs : FileSystem} {existOk : Bool} {p : Path} {e : Failure}
    (hnul : p.hasNul = false) (h : (fs.makeLeaf existOk p).1 = .error e) :
    ∃ cause, e = .system cause := by
  unfold makeLeaf at h
  split at h
  · contradiction
  · rename_i e' hm
    obtain ⟨cause, rfl⟩ := makeOne_error hnul hm
    exact excuse_error h

/-! ## Attempts with parents -/

/-- A path is tried, with missing parents made first. Each rule is one way in which that ends. -/
inductive Making : Bool → FileSystem → Path → Except Failure Unit × FileSystem → Prop
  | leaf (existOk fs p) : Making existOk fs p (fs.makeLeaf existOk p)
  | stuck {existOk fs p e e' fs'} : fs.makeOne p = .error e → isMissing e = true →
      Making true fs p.parent (.error e', fs') → Making existOk fs p (.error e', fs')
  | again {existOk fs p e fs'} : fs.makeOne p = .error e → isMissing e = true →
      Making true fs p.parent (.ok (), fs') → Making existOk fs p (fs'.makeLeaf existOk p)

theorem making_makeWithin (levels : Nat) (existOk : Bool) (fs : FileSystem) (p : Path) :
    Making existOk fs p (makeWithin levels existOk fs p) := by
  induction levels generalizing existOk fs p with
  | zero => exact .leaf existOk fs p
  | succ levels ih =>
    have hleaf := Making.leaf existOk fs p
    unfold makeLeaf at hleaf
    rw [makeWithin]
    split
    · rename_i fs' hm
      simpa only [hm] using hleaf
    · rename_i e hm
      split
      · rename_i hmiss
        have hparent := ih true fs p.parent
        split
        · rename_i fs' hr
          rw [hr] at hparent
          exact .again hm hmiss hparent
        · rename_i e' fs' hr
          rw [hr] at hparent
          exact .stuck hm hmiss hparent
      · simpa only [hm] using hleaf

namespace Making

variable {existOk : Bool} {fs : FileSystem} {p : Path} {out : Except Failure Unit × FileSystem}

theorem growth (h : Making existOk fs p out) : Growth fs out.2 p := by
  induction h with
  | leaf existOk fs p => exact makeLeaf_growth fs existOk p
  | stuck _ _ _ ih => exact ih.of_parent
  | again _ _ _ ih => exact ih.of_parent.trans (makeLeaf_growth _ _ _)

theorem isDirectory (h : Making existOk fs p out) (hok : out.1 = .ok ()) :
    out.2.isDirectory p = .ok true := by
  cases h with
  | leaf => exact isDirectory_of_makeLeaf hok
  | stuck => contradiction
  | again => exact isDirectory_of_makeLeaf hok

theorem of_hasNul (h : Making existOk fs p out) (hnul : p.hasNul = true) :
    out = (.error .malformed, fs) := by
  have hone : fs.makeOne p = .error .malformed := makeOne_of_hasNul hnul
  cases h with
  | leaf => simp [makeLeaf, hone, excuse]
  | stuck hm hmiss _ | again hm hmiss _ =>
    rw [hone] at hm
    obtain rfl := Except.error.inj hm
    simp [isMissing] at hmiss

theorem system_error (h : Making existOk fs p out) (hnul : p.hasNul = false) {e : Failure}
    (he : out.1 = .error e) : ∃ cause, e = .system cause := by
  induction h with
  | leaf => exact makeLeaf_error hnul he
  | stuck _ _ _ ih => exact ih (Path.hasNul_parent hnul) he
  | again => exact makeLeaf_error hnul he

end Making

/-! ## Making a directory -/

variable (fs : FileSystem) (p : Path) (parents existOk : Bool)

theorem making_makeDirectory : Making existOk fs p (fs.makeDirectory p parents existOk) :=
  making_makeWithin _ existOk fs p

theorem makeDirectory_growth : Growth fs (fs.makeDirectory p parents existOk).2 p :=
  (making_makeDirectory fs p parents existOk).growth

variable {fs p parents existOk}

theorem isDirectory_of_makeDirectory (h : (fs.makeDirectory p parents existOk).1 = .ok ()) :
    (fs.makeDirectory p parents existOk).2.isDirectory p = .ok true :=
  (making_makeDirectory fs p parents existOk).isDirectory h

/-- A directory that is there already is not made again. -/
theorem makeDirectory_of_isDirectory (h : fs.isDirectory p = .ok true) :
    fs.makeDirectory p parents true = (.ok (), fs) := by
  have hone := makeOne_of_isDirectory h
  unfold makeDirectory
  generalize (if parents then p.parts.length else 0) = levels
  cases levels with
  | zero => simp [makeWithin, makeLeaf, hone, excuse, isMissing, h]
  | succ levels => simp [makeWithin, hone, excuse, isMissing, h]

theorem makeDirectory_of_hasNul (h : p.hasNul = true) :
    fs.makeDirectory p parents existOk = (.error .malformed, fs) :=
  (making_makeDirectory fs p parents existOk).of_hasNul h

/-- A failure is a refusal of the system, or nothing has been done. -/
theorem makeDirectory_error {e : Failure}
    (h : (fs.makeDirectory p parents existOk).1 = .error e) :
    (∃ cause, e = .system cause) ∨
      e = .malformed ∧ (fs.makeDirectory p parents existOk).2 = fs := by
  cases hnul : p.hasNul with
  | false => exact .inl ((making_makeDirectory fs p parents existOk).system_error hnul h)
  | true =>
    rw [makeDirectory_of_hasNul hnul] at h ⊢
    exact .inr ⟨(Except.error.inj h).symm, rfl⟩

end FileSystem

end BackupLocator
