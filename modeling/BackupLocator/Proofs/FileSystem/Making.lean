import BackupLocator.Proofs.Action.Effect
import BackupLocator.Proofs.FileSystem.Creation

/-!
# How the making of a directory ends

The rules by which a directory is made set no bound on the number of attempts. They always come to
an end, with one outcome: a parent is made only where it is another path, so each attempt has fewer
segments before it. What is left behind has grown by directories; a directory that must be new was
nothing before; without parents there is one new directory at most; and a directory that has been
made is not made again.
-/

namespace BackupLocator

/-- A path has a parent of its own unless it is where its anchor is. -/
theorem Path.parent_ne_self_iff {p : Path} : p.parent ≠ p ↔ p.parts ≠ [] := by
  constructor
  · intro hne hparts
    refine hne (Path.ext rfl ?_)
    simp [parent, hparts]
  · intro hparts heq
    have hlength : p.parts.dropLast.length = p.parts.length := congrArg (·.parts.length) heq
    have hpos : 0 < p.parts.length := List.length_pos_iff.mpr hparts
    rw [List.length_dropLast] at hlength
    omega

namespace FileSystem

/-- A path names nothing: it leads to nothing, and not even a link stands at its end. -/
structure NamesNothing (fs : FileSystem) (p : Path) : Prop where
  absent : fs.isPresent p = .ok false
  untaken : ∀ loc, fs.locate .atEntry p ≠ .ok (.taken loc)

/-- The rules by which a directory is made. A derivation is finite, so it says that the making comes
to an end. -/
inductive Makes : Bool → Bool → FileSystem → Path → Except Failure Unit × FileSystem → Prop
  | made {parents existOk fs p fs'} : fs.makeOne p = .ok fs' →
      Makes parents existOk fs p (.ok (), fs')
  /-- The system refuses, which is no failure for a directory that may be there. -/
  | refused {parents existOk fs p e} : fs.makeOne p = .error e → isMissing e = false →
      Makes parents existOk fs p (fs.excuse existOk p e, fs)
  /-- Something on the way is missing, and no parent is to be made. -/
  | missing {parents existOk fs p e} : fs.makeOne p = .error e → isMissing e = true →
      ¬(parents = true ∧ p.parent ≠ p) → Makes parents existOk fs p (.error e, fs)
  | stuck {existOk fs p e e' fs'} : fs.makeOne p = .error e → isMissing e = true →
      p.parent ≠ p → Makes true true fs p.parent (.error e', fs') →
      Makes true existOk fs p (.error e', fs')
  | again {existOk fs p e fs' out} : fs.makeOne p = .error e → isMissing e = true →
      p.parent ≠ p → Makes true true fs p.parent (.ok (), fs') →
      Makes false existOk fs' p out → Makes true existOk fs p out

variable {fs fs' : FileSystem} {p : Path} {parents existOk : Bool} {e : Failure}
  {out : Except Failure Unit × FileSystem}

/-! ## Attempts -/

theorem makeDirectory_of_made (h : fs.makeOne p = .ok fs') :
    fs.makeDirectory p parents existOk = (.ok (), fs') := by
  unfold makeDirectory
  cases (if parents then p.parts.length else 0) with
  | zero => simp only [makeWithin, makeLeaf, h]
  | succ levels => simp only [makeWithin, h]

theorem makeDirectory_of_refused (h : fs.makeOne p = .error e) (he : isMissing e = false) :
    fs.makeDirectory p parents existOk = (fs.excuse existOk p e, fs) := by
  unfold makeDirectory
  cases (if parents then p.parts.length else 0) with
  | zero => simp only [makeWithin, makeLeaf, h]
  | succ levels => simp [makeWithin, h, he]

/-- What is missing is no excuse. -/
theorem excuse_of_isMissing (fs : FileSystem) (existOk : Bool) (p : Path)
    (he : isMissing e = true) : fs.excuse existOk p e = .error e := by
  cases e <;> simp [excuse, he]

theorem makeDirectory_of_missing (h : fs.makeOne p = .error e) (he : isMissing e = true)
    (hparents : ¬(parents = true ∧ p.parent ≠ p)) :
    fs.makeDirectory p parents existOk = (.error e, fs) := by
  have hlevels : (if parents then p.parts.length else 0) = 0 := by
    cases parents with
    | false => rfl
    | true =>
      by_cases hparts : p.parts = []
      · simp [hparts]
      · exact absurd ⟨rfl, Path.parent_ne_self_iff.mpr hparts⟩ hparents
  rw [makeDirectory, hlevels, makeWithin, makeLeaf, h]
  simp only [excuse_of_isMissing fs existOk p he]

/-- A missing parent is made first, and then the directory is tried once more. -/
theorem makeDirectory_of_parent (h : fs.makeOne p = .error e) (he : isMissing e = true)
    (hparent : p.parent ≠ p) :
    fs.makeDirectory p true existOk =
      match fs.makeDirectory p.parent true true with
      | (.ok (), fs') => fs'.makeDirectory p false existOk
      | (.error e', fs') => (.error e', fs') := by
  have hpos : 0 < p.parts.length :=
    List.length_pos_iff.mpr (Path.parent_ne_self_iff.mp hparent)
  obtain ⟨levels, hlevels⟩ := Nat.exists_eq_succ_of_ne_zero (Nat.ne_of_gt hpos)
  have hparentLevels : p.parent.parts.length = levels := by
    rw [Path.parent, List.length_dropLast, hlevels, Nat.succ_sub_one]
  simp only [makeDirectory, if_true, hlevels, hparentLevels, makeWithin, h, he]
  rfl

/-! ## The rules and the outcome -/

theorem Makes.makeDirectory_eq (h : Makes parents existOk fs p out) :
    fs.makeDirectory p parents existOk = out := by
  induction h with
  | made hone => exact makeDirectory_of_made hone
  | refused hone he => exact makeDirectory_of_refused hone he
  | missing hone he hparents => exact makeDirectory_of_missing hone he hparents
  | stuck hone he hparent _ ih => rw [makeDirectory_of_parent hone he hparent, ih]
  | again hone he hparent _ _ ih ih' =>
    rw [makeDirectory_of_parent hone he hparent, ih]
    exact ih'

/-- The rules lead to the outcome, if they do so for a parent that may be made and for the directory
behind it. -/
theorem makes_of_parent
    (hup : parents = true → p.parent ≠ p →
      Makes true true fs p.parent (fs.makeDirectory p.parent true true))
    (hagain : parents = true → ∀ fs' : FileSystem,
      Makes false existOk fs' p (fs'.makeDirectory p false existOk)) :
    Makes parents existOk fs p (fs.makeDirectory p parents existOk) := by
  cases hone : fs.makeOne p with
  | ok fs' =>
    rw [makeDirectory_of_made hone]
    exact .made hone
  | error e =>
    cases he : isMissing e with
    | false =>
      rw [makeDirectory_of_refused hone he]
      exact .refused hone he
    | true =>
      by_cases hparents : parents = true ∧ p.parent ≠ p
      · obtain ⟨rfl, hparent⟩ := hparents
        have hparentMakes := hup rfl hparent
        rw [makeDirectory_of_parent hone he hparent]
        rcases hr : fs.makeDirectory p.parent true true with ⟨e' | _, fs'⟩ <;>
          rw [hr] at hparentMakes
        · exact .stuck hone he hparent hparentMakes
        · exact .again hone he hparent hparentMakes (hagain rfl fs')
      · rw [makeDirectory_of_missing hone he hparents]
        exact .missing hone he hparents

/-- The making comes to an end. The induction is on the number of segments, of which a parent has
one less; behind the parent there is one attempt without parents. -/
theorem makes_makeDirectory (fs : FileSystem) (p : Path) (parents existOk : Bool) :
    Makes parents existOk fs p (fs.makeDirectory p parents existOk) := by
  have hleaf (fs : FileSystem) (p : Path) (existOk : Bool) :
      Makes false existOk fs p (fs.makeDirectory p false existOk) :=
    makes_of_parent (by simp) (by simp)
  induction hlength : p.parts.length generalizing p parents existOk with
  | zero =>
    refine makes_of_parent (fun _ hparent => ?_) fun _ fs' => hleaf fs' p existOk
    exact absurd (List.length_eq_zero_iff.mp hlength) (Path.parent_ne_self_iff.mp hparent)
  | succ n ih =>
    refine makes_of_parent (fun _ _ => ih p.parent true true ?_) fun _ fs' => hleaf fs' p existOk
    rw [Path.parent, List.length_dropLast, hlength, Nat.succ_sub_one]

theorem makes_iff : Makes parents existOk fs p out ↔ fs.makeDirectory p parents existOk = out := by
  constructor
  · exact Makes.makeDirectory_eq
  · rintro rfl
    exact makes_makeDirectory fs p parents existOk

/-! ## New directories -/

/-- Where something on the way to a path is missing, or its place is free, it names nothing. -/
theorem namesNothing_of_locate (hnul : p.hasNul = false)
    (h : (∃ dir name, fs.locate .atEntry p = .ok (.free dir name)) ∨
      fs.locate .atEntry p = .error .noEntry) : fs.NamesNothing p := by
  rcases h with ⟨dir, name, hfree⟩ | hnone
  · refine ⟨?_, by simp [hfree]⟩
    simp [isPresent, probe, hnul, locate_throughLink hfree, Except.map]
  · refine ⟨?_, by simp [hnone]⟩
    simp [isPresent, probe, hnul, locate_throughLink_of_error hnone, Except.map]

theorem locate_of_isMissing (h : fs.makeOne p = .error e) (he : isMissing e = true) :
    p.hasNul = false ∧ fs.locate .atEntry p = .error .noEntry := by
  unfold makeOne at h
  split at h
  · obtain rfl := Except.error.inj h
    contradiction
  · rename_i hnul
    refine ⟨by simpa using hnul, ?_⟩
    split at h
    · rename_i errno hl
      obtain rfl := Except.error.inj h
      rw [hl]
      simpa [isMissing] using he
    · obtain rfl := Except.error.inj h
      contradiction
    · split at h
      · obtain rfl := Except.error.inj h
        contradiction
      · contradiction

/-- Where a directory must be new, its path has named nothing. -/
theorem namesNothing_of_made (h : (fs.makeDirectory p parents false).1 = .ok ()) :
    fs.NamesNothing p := by
  cases hone : fs.makeOne p with
  | ok fs' =>
    obtain ⟨hnul, dir, name, hfree, -⟩ := makeOne_ok hone
    exact namesNothing_of_locate hnul (.inl ⟨dir, name, hfree⟩)
  | error e =>
    cases he : isMissing e with
    | true =>
      obtain ⟨hnul, hnone⟩ := locate_of_isMissing hone he
      exact namesNothing_of_locate hnul (.inr hnone)
    | false =>
      -- A refusal is excused only where the directory may be there.
      rw [makeDirectory_of_refused hone he] at h
      cases e <;> simp [excuse] at h

/-- Without parents there is one new directory at most. -/
theorem makeDirectory_leaf (fs : FileSystem) (p : Path) (existOk : Bool) :
    (fs.makeDirectory p false existOk).2 = fs ∨ ∃ loc, fs.find? loc = none ∧
      (fs.makeDirectory p false existOk).2 = fs.add loc .directory := by
  cases hone : fs.makeOne p with
  | ok fs' =>
    obtain ⟨-, dir, name, hfree, rfl⟩ := makeOne_ok hone
    rw [makeDirectory_of_made hone]
    exact .inr ⟨name :: dir, (locate_free hfree).2, rfl⟩
  | error e =>
    left
    cases he : isMissing e with
    | true => rw [makeDirectory_of_missing hone he (by simp)]
    | false => rw [makeDirectory_of_refused hone he]

end FileSystem

/-! ## The action -/

namespace Action

open FileSystem

/-- The making of a directory comes to an end with one outcome, that of the rules. Where it succeeds
the path is a directory. Nothing that was there is lost or changed and only directories are added,
also where it fails. A directory that must be new was nothing before, without parents there is one
new directory at most, and a directory that has been made is there for a second call, which adds
nothing. -/
theorem makeDirectory_ends (p : Path) (parents existOk : Bool) (s : Session) :
    let out := (makeDirectory p parents existOk).run s
    (∀ result files, Makes parents existOk s.files p (result, files) ↔
        result = out.1 ∧ files = out.2.files) ∧
      (out.1 = .ok () → out.2.files.isDirectory p = .ok true) ∧
      Extension s.files out.2.files ∧
      (existOk = false → out.1 = .ok () → s.files.NamesNothing p) ∧
      (parents = false → out.2.files = s.files ∨ ∃ loc, s.files.find? loc = none ∧
        out.2.files = s.files.add loc .directory) ∧
      (out.1 = .ok () → ∀ parents',
        ((makeDirectory p parents' true).run out.2).1 = .ok () ∧
          ((makeDirectory p parents' true).run out.2).2.files = out.2.files) ∧
      out.2.memo = s.memo := by
  intro out
  obtain ⟨journal, hrun⟩ := run_makeDirectory p parents existOk s
  have hout : out = ((s.files.makeDirectory p parents existOk).1,
      ⟨(s.files.makeDirectory p parents existOk).2, s.memo, journal⟩) := hrun
  rw [hout]
  refine ⟨fun result files => ?_, isDirectory_of_makeDirectory,
    (makeDirectory_growth s.files p parents existOk).toExtension, ?_, ?_, fun h parents' => ?_, rfl⟩
  · rw [makes_iff, Prod.ext_iff, eq_comm, eq_comm (b := files)]
  · rintro rfl
    exact namesNothing_of_made
  · rintro rfl
    exact makeDirectory_leaf s.files p existOk
  · have hthere := isDirectory_of_makeDirectory h
    obtain ⟨journal', hrun'⟩ := run_makeDirectory p parents' true
      ⟨(s.files.makeDirectory p parents existOk).2, s.memo, journal⟩
    rw [hrun', makeDirectory_of_isDirectory hthere]
    exact ⟨rfl, rfl⟩

/-- A path that goes through a missing directory and back: that one is made for its sake. -/
theorem makeDirectory_ends_behind_missing :
    let p : Path := .ofText "/a/../b"
    let out := (makeDirectory p true false).run (.start .empty)
    out.1 = .ok () ∧ out.2.files.isDirectory p = .ok true ∧ FileSystem.empty.NamesNothing p ∧
      out.2.files.isDirectory (.ofText "/a") = .ok true := by
  intro p out
  have hmade : out.1 = .ok () := rfl
  obtain ⟨-, hthere, -, hnothing, -⟩ := makeDirectory_ends p true false (.start .empty)
  exact ⟨hmade, hthere hmade, hnothing rfl hmade, rfl⟩

end Action

end BackupLocator
