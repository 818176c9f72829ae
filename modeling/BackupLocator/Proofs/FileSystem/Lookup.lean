import BackupLocator.Layout
import BackupLocator.Proofs.FileSystem.Creation

/-!
# Paths that cannot be looked up

What a path leads to cannot be told where the path, or a name on the way, is too long. A walk that
has arrived has come by no such name. A path that holds a NUL leads nowhere, and nothing is made
there. A backup directory on a root that has been found holds a NUL only where its variant does.
-/

namespace BackupLocator

/-! ## NULs -/

namespace Path

theorem hasNul_ofText (s : String) : (ofText s).hasNul = true ↔ '\x00' ∈ s.toList := by
  have hslash : '\x00' ≠ '/' := by decide
  rw [hasNul, List.any_eq_true, ← Text.exists_mem_pieces_iff hslash s.toList]
  constructor
  · rintro ⟨w, hw, hnul⟩
    simp only [ofText, segmentsOf, List.mem_map, List.mem_filter] at hw
    obtain ⟨piece, ⟨hpiece, -⟩, rfl⟩ := hw
    exact ⟨piece, hpiece, by simpa using hnul⟩
  · rintro ⟨piece, hpiece, hnul⟩
    -- A piece with a NUL in it is neither empty nor a point, so it is a segment.
    have hkept : piece ≠ [] ∧ piece ≠ ['.'] := by
      constructor <;> rintro rfl <;> simp at hnul
    refine ⟨String.ofList piece, ?_, by simpa using hnul⟩
    simp only [ofText, segmentsOf, List.mem_map, List.mem_filter]
    exact ⟨piece, ⟨hpiece, by simpa using hkept⟩, rfl⟩

theorem hasNul_child {p : Path} (h : p.hasNul = false) (name : String) :
    (p.child name).hasNul = true ↔ '\x00' ∈ name.toList := by
  rw [child, ← hasNul_ofText]
  cases habsolute : (ofText name).isAbsolute with
  | true => rw [join_of_isAbsolute habsolute]
  | false =>
    have hparts := parts_join_of_relative (p := p) habsolute
    simp only [hasNul] at h ⊢
    rw [hparts, List.any_append, h, Bool.false_or]

end Path

/-- The directory of a category on a root without a NUL holds one exactly where the variant does. -/
theorem Layout.hasNul_backupPath {package : PackageId} {root path : Path} {category : Category}
    (hroot : root.hasNul = false) (h : backupPath package root category = .ok path) :
    path.hasNul = true ↔ ∃ variant, package.variant = .ok (some variant) ∧
      '\x00' ∈ variant.toList := by
  have hcategory : (withCategory root category).hasNul = false := by
    rw [Bool.eq_false_iff, ne_eq, withCategory, Path.hasNul_child hroot]
    cases category <;> decide
  unfold backupPath withVariant at h
  rcases hv : package.variant with e | _ | variant <;> rw [hv] at h
  · contradiction
  · obtain rfl := Except.ok.inj h
    simp [hcategory]
  · obtain rfl := Except.ok.inj h
    simp [Path.hasNul_child hcategory]

/-! ## Names that are too long -/

namespace FileSystem

/-- What a path leads to cannot be told: the path, or a name on the way, is too long. -/
def IsTooLong (fs : FileSystem) (p : Path) : Prop :=
  p.hasNul = false ∧ fs.locate .throughLink p = .error .nameTooLong

variable {fs : FileSystem} {p : Path} {e : Failure}

theorem isDirectory_eq_error_iff :
    fs.isDirectory p = .error e ↔ fs.IsTooLong p ∧ e = .system ⟨.nameTooLong, p⟩ := by
  unfold isDirectory probe IsTooLong
  cases hnul : p.hasNul with
  | true => simp [Except.map]
  | false =>
    cases hl : fs.locate .throughLink p with
    | ok spot => cases spot <;> simp [Except.map]
    | error errno => cases errno <;> simp [Except.map, eq_comm]

theorem canWrite_eq_error_iff :
    fs.canWrite p = .error e ↔ fs.IsTooLong p ∧ e = .system ⟨.nameTooLong, p⟩ := by
  rw [← isDirectory_eq_error_iff, canWrite]
  cases fs.isDirectory p <;> simp [Except.map]

theorem hasNul_of_canWrite (h : fs.canWrite p = .ok true) : p.hasNul = false :=
  (isDirectory_eq_true_iff.mp (canWrite_eq_true_iff.mp h).1).1

/-- A path that is too long is none that has been looked up. -/
theorem not_isTooLong_of_isDirectory {found : Bool} (h : fs.isDirectory p = .ok found) :
    ¬fs.IsTooLong p := by
  intro hlong
  simp [isDirectory_eq_error_iff.mpr ⟨hlong, rfl⟩] at h

theorem exists_isDirectory_iff : (∃ found, fs.isDirectory p = .ok found) ↔ ¬fs.IsTooLong p := by
  constructor
  · rintro ⟨found, hfound⟩
    exact not_isTooLong_of_isDirectory hfound
  · intro hshort
    cases hfound : fs.isDirectory p with
    | ok found => exact ⟨found, rfl⟩
    | error e => exact absurd (isDirectory_eq_error_iff.mp hfound).1 hshort

theorem exists_canWrite_iff : (∃ granted, fs.canWrite p = .ok granted) ↔ ¬fs.IsTooLong p := by
  rw [← exists_isDirectory_iff, canWrite]
  cases fs.isDirectory p <;> simp [Except.map]

theorem not_isTooLong_of_canWrite {granted : Bool} (h : fs.canWrite p = .ok granted) :
    ¬fs.IsTooLong p :=
  exists_canWrite_iff.mp ⟨granted, h⟩

/-! A walk stops at a long name only if there is one on its way. -/

theorem exists_long_of_advance {aim : Aim} {loc : Location} {names : List String}
    (h : fs.advance aim loc names = .error .nameTooLong) :
    ∃ name ∈ names, nameLimit < name.utf8ByteSize := by
  induction names generalizing loc with
  | nil =>
    rw [advance] at h
    split at h <;> simp at h
  | cons name rest ih =>
    have later {loc : Location} (h : fs.advance aim loc rest = .error .nameTooLong) :
        ∃ name' ∈ name :: rest, nameLimit < name'.utf8ByteSize := by
      obtain ⟨name', hmem, hlong⟩ := ih h
      exact ⟨name', List.mem_cons_of_mem name hmem, hlong⟩
    rw [advance] at h
    split at h
    · simp at h
    · split at h
      · exact later h
      split at h
      · simp at h
      split at h
      · exact later h
      split at h
      · rename_i hlong
        exact ⟨name, List.mem_cons_self, hlong⟩
      -- The name is short, so the walk has stopped at a later one.
      split at h
      · split at h <;> simp at h
      · split at h <;> simp at h
      · exact later h
    · simp at h

theorem Leads.of_link {aim : Aim} {loc dir : Location} {names rest : List String} {r : Reach}
    {target : Target} (h : fs.Leads aim loc names r) (hr : r = .link dir target rest) :
    (∃ loc', fs.find? loc' = some (.link target)) ∧ rest ⊆ names := by
  induction h with
  | link _ _ hl =>
    obtain ⟨rfl, rfl, rfl⟩ := Reach.link.inj hr
    exact ⟨⟨_, hl⟩, List.subset_cons_self _ _⟩
  | stay _ _ _ ih | up _ _ _ ih | down _ _ _ _ _ ih =>
    obtain ⟨hlink, hrest⟩ := ih hr
    exact ⟨hlink, List.subset_cons_of_subset _ hrest⟩
  | arrive | free | atLink => simp at hr

theorem exists_long_of_walk {aim : Aim} {budget : Nat} {loc : Location} {names : List String}
    (h : fs.walk aim budget loc names = .error .nameTooLong) :
    ∃ name, nameLimit < name.utf8ByteSize ∧ (name ∈ names ∨
      ∃ loc' target, fs.find? loc' = some (.link target) ∧ name ∈ target.names) := by
  have stops {loc : Location} {names : List String}
      (h : fs.advance aim loc names = .error .nameTooLong) :
      ∃ name, nameLimit < name.utf8ByteSize ∧ (name ∈ names ∨
        ∃ loc' target, fs.find? loc' = some (.link target) ∧ name ∈ target.names) := by
    obtain ⟨name, hmem, hlong⟩ := exists_long_of_advance h
    exact ⟨name, hlong, .inl hmem⟩
  induction budget generalizing loc names with
  | zero =>
    rw [walk] at h
    split at h
    · rename_i hs
      obtain rfl := Except.error.inj h
      exact stops hs
    · contradiction
    · simp at h
  | succ less ih =>
    rw [walk] at h
    split at h
    · rename_i hs
      obtain rfl := Except.error.inj h
      exact stops hs
    · contradiction
    · rename_i dir target rest hl
      obtain ⟨⟨loc', hlink⟩, hrest⟩ := (leads_of_advance hl).of_link rfl
      obtain ⟨name, hlong, hmem | hmem⟩ := ih h
      · -- A name behind a link is one of its target, or one that was to come anyway.
        rcases List.mem_append.mp hmem with htarget | hmem
        · exact ⟨name, hlong, .inr ⟨loc', target, hlink, htarget⟩⟩
        · exact ⟨name, hlong, .inl (hrest hmem)⟩
      · exact ⟨name, hlong, .inr hmem⟩

/-- A path can be looked up unless it has too many bytes, or a name in it, or in the target of a
link, has. -/
theorem IsTooLong.exists_long (h : fs.IsTooLong p) :
    pathLimit ≤ p.byteCount ∨ ∃ name, nameLimit < name.utf8ByteSize ∧ (name ∈ p.parts ∨
      ∃ loc target, fs.find? loc = some (.link target) ∧ name ∈ target.names) := by
  obtain ⟨-, hl⟩ := h
  unfold locate at hl
  split at hl
  · rename_i hlong
    exact .inl hlong
  · exact .inr (exists_long_of_walk hl)

/-! A walk that has arrived has come by no long name. -/

/-- The names that a walk has come by are short. Behind a link there may be others to come. -/
theorem Leads.short {aim : Aim} {loc : Location} {names : List String} {r : Reach}
    (h : fs.Leads aim loc names r) {name : String} (hmem : name ∈ names) :
    name.utf8ByteSize ≤ nameLimit ∨ ∃ dir target rest, r = .link dir target rest ∧ name ∈ rest := by
  induction h with
  | arrive => simp at hmem
  | free _ hent | atLink _ hent =>
    obtain rfl := List.mem_singleton.mp hmem
    exact .inl hent.short
  | link _ hent =>
    rcases List.mem_cons.mp hmem with rfl | hrest
    · exact .inl hent.short
    · exact .inr ⟨_, _, _, rfl, hrest⟩
  | stay _ hstay _ ih =>
    rcases List.mem_cons.mp hmem with rfl | hrest
    · simp only [Ending.isStay, Bool.or_eq_true, decide_eq_true_eq] at hstay
      rcases hstay with rfl | rfl <;> exact .inl (by decide)
    · exact ih hrest
  | up _ _ _ ih =>
    rcases List.mem_cons.mp hmem with rfl | hrest
    · exact .inl (by decide)
    · exact ih hrest
  | down _ hent _ _ _ ih =>
    rcases List.mem_cons.mp hmem with rfl | hrest
    · exact .inl hent.short
    · exact ih hrest

/-- Where a walk has arrived, it has looked at all names, so they are short. -/
theorem Arrives.short {aim : Aim} {budget : Nat} {loc : Location} {names : List String}
    {spot : Spot} (h : fs.Arrives aim spot budget loc names) :
    ∀ name ∈ names, name.utf8ByteSize ≤ nameLimit := by
  induction h with
  | direct hl =>
    intro name hmem
    rcases hl.short hmem with hshort | ⟨_, _, _, hr, -⟩
    · exact hshort
    · contradiction
  | follow hl _ ih =>
    intro name hmem
    rcases hl.short hmem with hshort | ⟨_, _, _, hr, hrest⟩
    · exact hshort
    · obtain ⟨rfl, rfl, rfl⟩ := Reach.link.inj hr
      exact ih name (List.mem_append_right _ hrest)

/-! ## A path that no file system takes -/

theorem ne_of_long {name short : String} (hlong : nameLimit < name.utf8ByteSize)
    (hshort : short.utf8ByteSize ≤ nameLimit) : name ≠ short := by
  rintro rfl
  omega

/-- A walk that looks for a name that is too long stops there. -/
theorem advance_of_long {aim : Aim} {loc : Location} {name : String} {rest : List String}
    (h : fs.find? loc = some .directory) (haim : aim ≠ .forWriting)
    (hlong : nameLimit < name.utf8ByteSize) :
    fs.advance aim loc (name :: rest) = .error .nameTooLong := by
  have hslash : name ≠ Ending.slashName := ne_of_long hlong (by decide)
  have hpoint : name ≠ Ending.pointName := ne_of_long hlong (by decide)
  have hup : name ≠ ".." := ne_of_long hlong (by decide)
  rw [advance, h]
  simp [Ending.isStay, hslash, hpoint, haim, hup, hlong]

/-- Whatever there is, nothing below a long name at the root can be looked up. -/
theorem isTooLong_of_long {name : String} {rest : List String} (hnul : p.hasNul = false)
    (habsolute : p.isAbsolute = true) (hparts : p.parts = name :: rest)
    (hlong : nameLimit < name.utf8ByteSize) : fs.IsTooLong p := by
  have hstart : start fs.workingDirectory.parts.reverse p = [] := by simp [start, habsolute]
  refine ⟨hnul, ?_⟩
  unfold locate
  split
  · rfl
  · rw [hstart, hparts, walk.eq_def, advance_of_long fs.find?_nil (by decide) hlong]

/-- The same holds of a path on which a link leads there. -/
theorem isTooLong_of_link {dir : Location} {target : Target} {name : String}
    {names rest : List String} (hnul : p.hasNul = false)
    (hlink : fs.advance .throughLink (start fs.workingDirectory.parts.reverse p) p.parts =
      .ok (.link dir target rest))
    (habsolute : target.path.isAbsolute = true) (hnames : target.names = name :: names)
    (hlong : nameLimit < name.utf8ByteSize) : fs.IsTooLong p := by
  have hstart : start dir target.path = [] := by simp [start, habsolute]
  refine ⟨hnul, ?_⟩
  unfold locate
  split
  · rfl
  · rw [linkLimit, walk, hlink]
    dsimp only
    rw [hstart, hnames, List.cons_append, walk.eq_def,
      advance_of_long fs.find?_nil (by decide) hlong]

end FileSystem

/-- A name that is too long by one letter. -/
@[irreducible]
def longName : String := String.ofList (List.replicate (FileSystem.nameLimit + 1) 'a')

theorem toList_longName : longName.toList = List.replicate (FileSystem.nameLimit + 1) 'a' := by
  unfold longName
  exact String.toList_ofList

theorem nameLimit_lt_longName : FileSystem.nameLimit < longName.utf8ByteSize := by
  unfold longName
  decide +kernel

/-- The path of a long name at the root. -/
def longPath : Path where
  anchor := .root
  parts := [longName]
  segments := by
    intro s hs
    obtain rfl := List.mem_singleton.mp hs
    have hempty : longName ≠ "" := FileSystem.ne_of_long nameLimit_lt_longName (by decide)
    have hpoint : longName ≠ "." := FileSystem.ne_of_long nameLimit_lt_longName (by decide)
    exact ⟨hempty, hpoint, by simp [toList_longName]⟩

theorem longPath_isTooLong (fs : FileSystem) : fs.IsTooLong longPath := by
  refine FileSystem.isTooLong_of_long ?_ rfl rfl nameLimit_lt_longName
  simp [Path.hasNul, longPath, toList_longName]

end BackupLocator
