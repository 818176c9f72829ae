import BackupLocator.Proofs.FileSystem.Overwrite

/-!
# File systems that have grown

A file system extends another one when it has all its entries, its other entries are directories,
and the rest of it is the same. A path that leads to something leads to the same place in every
extension: a walk that arrives has looked at taken places only. So what can be asked of a directory
has the same answer there.
-/

namespace BackupLocator

namespace FileSystem

/-- What a file system becomes by new directories alone. -/
structure Extension (fs fs' : FileSystem) : Prop where
  kept : ∀ {loc e}, fs.find? loc = some e → fs'.find? loc = some e
  added : ∀ {loc e}, fs.find? loc = none → fs'.find? loc = some e → e = .directory
  workingDirectory : fs'.workingDirectory = fs.workingDirectory
  denied : fs'.denied = fs.denied
  full : fs'.full = fs.full

namespace Extension

theorem refl (fs : FileSystem) : Extension fs fs where
  kept h := h
  added h h' := by simp [h] at h'
  workingDirectory := rfl
  denied := rfl
  full := rfl

theorem trans {fs gs hs : FileSystem} (h : Extension fs gs) (h' : Extension gs hs) :
    Extension fs hs where
  kept hl := h'.kept (h.kept hl)
  added {loc e} hn hs' := by
    -- A new place has come in the first step or in the second one.
    cases hg : gs.find? loc with
    | none => exact h'.added hg hs'
    | some e' =>
      have he : e' = .directory := h.added hn hg
      rw [h'.kept hg, Option.some.injEq] at hs'
      rw [← hs', he]
  workingDirectory := h'.workingDirectory.trans h.workingDirectory
  denied := h'.denied.trans h.denied
  full := h'.full.trans h.full

theorem add {fs : FileSystem} {name : String} {dir : Location}
    (h : fs.find? (name :: dir) = none) : Extension fs (fs.add (name :: dir) .directory) where
  kept {loc e} hl := by
    have hne : loc ≠ name :: dir := by
      rintro rfl
      simp [h] at hl
    rw [find?_add_ne fs hne, hl]
  added {loc e} hn hs := by
    by_cases hl : loc = name :: dir
    · rw [hl, find?_add_self, Option.some.injEq] at hs
      exact hs.symm
    · rw [find?_add_ne fs hl, hn] at hs
      contradiction
  workingDirectory := rfl
  denied := rfl
  full := rfl

end Extension

/-! ## Walks -/

variable {fs fs' : FileSystem}

theorem Leads.extend {aim : Aim} {loc : Location} {names : List String} {r : Reach}
    (h : fs.Leads aim loc names r) (hx : Extension fs fs')
    (hr : ∀ dir name, r ≠ .spot (.free dir name)) : fs'.Leads aim loc names r := by
  induction h with
  | @arrive loc hs =>
    obtain ⟨e, he⟩ := Option.isSome_iff_exists.mp hs
    exact .arrive (Option.isSome_iff_exists.mpr ⟨e, hx.kept he⟩)
  | stay hd hstay _ ih => exact .stay (hx.kept hd) hstay (ih hr)
  | up hd hslash _ ih => exact .up (hx.kept hd) hslash (ih hr)
  | free => exact absurd rfl (hr _ _)
  | atLink hd hent hl haim => exact .atLink (hx.kept hd) hent (hx.kept hl) haim
  | link hd hent hl hnot => exact .link (hx.kept hd) hent (hx.kept hl) hnot
  | down hd hent he hne _ ih => exact .down (hx.kept hd) hent (hx.kept he) hne (ih hr)

theorem Arrives.extend {aim : Aim} {budget : Nat} {loc loc' : Location} {names : List String}
    (h : fs.Arrives aim (.taken loc') budget loc names) (hx : Extension fs fs') :
    fs'.Arrives aim (.taken loc') budget loc names := by
  induction h with
  | direct hl => exact .direct (hl.extend hx (by simp))
  | follow hl _ ih => exact .follow (hl.extend hx (by simp)) ih

/-- A path that leads to something leads there in an extension too. -/
theorem Extension.locate_taken (hx : Extension fs fs') {aim : Aim} {p : Path} {loc : Location}
    (h : fs.locate aim p = .ok (.taken loc)) : fs'.locate aim p = .ok (.taken loc) := by
  obtain ⟨hshort, harrives⟩ := locate_eq_ok_iff.mp h
  rw [← hx.workingDirectory] at harrives
  exact locate_eq_ok_iff.mpr ⟨hshort, harrives.extend hx⟩

/-- A path to a free name leads to the directory that is made there. -/
theorem locate_fill {aim : Aim} {p : Path} {dir : Location} {name : String}
    (h : fs.locate aim p = .ok (.free dir name)) :
    (fs.add (name :: dir) .directory).locate aim p = .ok (.taken (name :: dir)) := by
  have hfree := (locate_free h).2
  have ho : Overwrite fs (fs.add (name :: dir) .directory) (Spot.free dir name).place .directory :=
    .add hfree (by simp)
  exact ho.locate h fun _ => hfree

/-! ## Questions -/

theorem isDirectory_eq_true_iff {p : Path} :
    fs.isDirectory p = .ok true ↔ p.hasNul = false ∧
      ∃ loc, fs.locate .throughLink p = .ok (.taken loc) ∧ fs.find? loc = some .directory := by
  unfold isDirectory probe
  cases hnul : p.hasNul with
  | true => simp [Except.map]
  | false =>
    cases hloc : fs.locate .throughLink p with
    | ok spot => cases spot <;> simp [Except.map]
    | error e => cases e <;> simp [Except.map]

theorem canWrite_eq_true_iff {p : Path} :
    fs.canWrite p = .ok true ↔ fs.isDirectory p = .ok true ∧ fs.absolute p ∉ fs.denied := by
  unfold canWrite
  rcases hd : fs.isDirectory p with _ | _ | _ <;> simp [Except.map]

theorem Extension.isDirectory (hx : Extension fs fs') {p : Path}
    (h : fs.isDirectory p = .ok true) : fs'.isDirectory p = .ok true := by
  obtain ⟨hnul, loc, hl, hd⟩ := isDirectory_eq_true_iff.mp h
  exact isDirectory_eq_true_iff.mpr ⟨hnul, loc, hx.locate_taken hl, hx.kept hd⟩

theorem Extension.absolute (hx : Extension fs fs') (p : Path) : fs'.absolute p = fs.absolute p := by
  rw [FileSystem.absolute, FileSystem.absolute, hx.workingDirectory]

theorem Extension.canWrite (hx : Extension fs fs') {p : Path} (h : fs.canWrite p = .ok true) :
    fs'.canWrite p = .ok true := by
  obtain ⟨hd, hden⟩ := canWrite_eq_true_iff.mp h
  rw [← hx.absolute, ← hx.denied] at hden
  exact canWrite_eq_true_iff.mpr ⟨hx.isDirectory hd, hden⟩

end FileSystem

end BackupLocator
