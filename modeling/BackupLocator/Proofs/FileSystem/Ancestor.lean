import BackupLocator.Proofs.FileSystem.Lookup
import BackupLocator.Proofs.Path

/-!
# The way to a directory

Where a path leads to a directory, each path that its text goes through leads to one too: a walk
takes a further name only from a directory. It may come there through links, which the shorter path
follows as well. The shorter path has no more bytes, and its names are among those that the walk has
come by.
-/

namespace BackupLocator

theorem Path.IsAtOrAbove.isPartOf {q p : Path} (h : q.IsAtOrAbove p) : q.IsPartOf p :=
  ⟨h.1, h.2.sublist⟩

namespace FileSystem

/-! ## Walks -/

variable {fs : FileSystem} {loc : Location} {names rest : List String}

/-- A further name is taken only from a directory. -/
theorem Leads.directory_of_ne_nil {aim : Aim} {r : Reach} (h : fs.Leads aim loc names r)
    (hnames : names ≠ []) : fs.find? loc = some .directory := by
  cases h with
  | arrive => exact absurd rfl hnames
  | stay hd | up hd | free hd | atLink hd | link hd | down hd => exact hd

/-- A walk along some names and then others comes to a directory behind the first ones, unless it
stops at a link among them. -/
theorem Leads.begins {r : Reach} (h : fs.Leads .throughLink loc (names ++ rest) r)
    (hrest : rest ≠ []) :
    (∃ dir, fs.Leads .throughLink loc names (.spot (.taken dir)) ∧
        fs.find? dir = some .directory) ∨
      ∃ dir target left, r = .link dir target (left ++ rest) ∧
        fs.Leads .throughLink loc names (.link dir target left) := by
  have entered {name rest rest'} (hent : IsEntered .throughLink name rest) :
      IsEntered .throughLink name rest' := ⟨hent.moves, by simp, hent.notUp, hent.short⟩
  induction names generalizing loc with
  | nil =>
    have hd := h.directory_of_ne_nil hrest
    exact .inl ⟨loc, .arrive (Option.isSome_of_eq_some hd), hd⟩
  | cons name names ih =>
    have hmore : names ++ rest ≠ [] := by simp [hrest]
    generalize hwhole : names ++ rest = whole at hmore
    rw [List.cons_append, hwhole] at h
    cases h with
    | free | atLink => exact absurd rfl hmore
    | link hd hent hl _ =>
      subst hwhole
      exact .inr ⟨_, _, names, rfl, .link hd (entered hent) hl (by simp)⟩
    | stay hd hstay hlater =>
      subst hwhole
      rcases ih hlater with ⟨dir, hleads, hdir⟩ | ⟨dir, target, left, hr, hleads⟩
      · exact .inl ⟨dir, .stay hd hstay hleads, hdir⟩
      · exact .inr ⟨dir, target, left, hr, .stay hd hstay hleads⟩
    | up hd _ hlater =>
      subst hwhole
      rcases ih hlater with ⟨dir, hleads, hdir⟩ | ⟨dir, target, left, hr, hleads⟩
      · exact .inl ⟨dir, .up hd (by simp) hleads, hdir⟩
      · exact .inr ⟨dir, target, left, hr, .up hd (by simp) hleads⟩
    | down hd hent he hne hlater =>
      subst hwhole
      rcases ih hlater with ⟨dir, hleads, hdir⟩ | ⟨dir, target, left, hr, hleads⟩
      · exact .inl ⟨dir, .down hd (entered hent) he hne hleads, hdir⟩
      · exact .inr ⟨dir, target, left, hr, .down hd (entered hent) he hne hleads⟩

/-- A walk that follows links comes to a directory behind the first names. -/
theorem Arrives.begins {budget : Nat} {spot : Spot}
    (h : fs.Arrives .throughLink spot budget loc (names ++ rest)) (hrest : rest ≠ []) :
    ∃ dir, fs.Arrives .throughLink (.taken dir) budget loc names ∧
      fs.find? dir = some .directory := by
  generalize hwhole : names ++ rest = whole at h
  induction h generalizing names with
  | direct hl =>
    subst hwhole
    rcases hl.begins hrest with ⟨dir, hleads, hdir⟩ | ⟨_, _, _, hr, _⟩
    · exact ⟨dir, .direct hleads, hdir⟩
    · contradiction
  | @follow less loc whole dir target tail hl hrun ih =>
    subst hwhole
    rcases hl.begins hrest with ⟨dir, hleads, hdir⟩ | ⟨_, _, left, hr, hleads⟩
    · exact ⟨dir, .direct hleads, hdir⟩
    · -- The names that are left lead on from the target, with the same others behind them.
      obtain ⟨rfl, rfl, rfl⟩ := Reach.link.inj hr
      obtain ⟨dir, harrives, hdir⟩ := ih (List.append_assoc _ _ _)
      exact ⟨dir, .follow hleads harrives, hdir⟩

/-! ## Paths -/

/-- Every path on the way to a directory leads to a directory. -/
theorem isDirectory_of_isAtOrAbove {q p : Path} (hq : q.IsAtOrAbove p)
    (h : fs.isDirectory p = .ok true) : fs.isDirectory q = .ok true := by
  obtain ⟨hnul, loc, hlocate, hloc⟩ := isDirectory_eq_true_iff.mp h
  obtain ⟨hshort, harrives⟩ := locate_eq_ok_iff.mp hlocate
  have ⟨hanchor, rest, hparts⟩ := hq
  have hstart (dir : Location) : start dir q = start dir p := by
    rw [start, start, Path.isAbsolute, Path.isAbsolute, hanchor]
  rw [← hparts, ← hstart] at harrives
  obtain ⟨dir, hthere, hdir⟩ : ∃ dir, fs.Arrives .throughLink (.taken dir) linkLimit
      (start fs.workingDirectory.parts.reverse q) q.parts ∧ fs.find? dir = some .directory := by
    by_cases hrest : rest = []
    · rw [hrest, List.append_nil] at harrives
      exact ⟨loc, harrives, hloc⟩
    · exact harrives.begins hrest
  have hbytes : q.byteCount < pathLimit := Nat.lt_of_le_of_lt hq.isPartOf.byteCount_le hshort
  exact isDirectory_eq_true_iff.mpr
    ⟨hq.isPartOf.hasNul hnul, dir, locate_eq_ok_iff.mpr ⟨hbytes, hthere⟩, hdir⟩

/-- Where a path leads to a directory, one with segments left out is too long only by a link: the
names of its own are those of the other path. -/
theorem IsTooLong.exists_long_link {q p : Path} (h : fs.IsTooLong q) (hq : q.IsPartOf p)
    (hp : fs.isDirectory p = .ok true) :
    ∃ loc target name, fs.find? loc = some (.link target) ∧ name ∈ target.names ∧
      nameLimit < name.utf8ByteSize := by
  obtain ⟨-, loc, hlocate, -⟩ := isDirectory_eq_true_iff.mp hp
  obtain ⟨hbytes, harrives⟩ := locate_eq_ok_iff.mp hlocate
  rcases h.exists_long with hlong | ⟨name, hlong, hmem | ⟨loc, target, hlink, hmem⟩⟩
  · have hfewer := hq.byteCount_le
    omega
  · have hshort := harrives.short name (hq.2.subset hmem)
    omega
  · exact ⟨loc, target, name, hlink, hmem, hlong⟩

end FileSystem

end BackupLocator
