import BackupLocator.Proofs.Config
import BackupLocator.Proofs.FileSystem.Lookup
import BackupLocator.Proofs.Platform

/-!
# Configured volumes as roots

A removable volume is listed as a root where there is a directory at the place of its mount, and as
a missing entry where there is none. So every root that is listed is a directory. Where values are
of their kinds, the volumes cannot be listed only if one of them is mounted at a path that is too
long.
-/

namespace BackupLocator

theorem Json.truthy_str {text : String} : (str text).truthy = true ↔ text ≠ "" := by
  simp [truthy]

namespace Platform

namespace Local

/-- The path at which a volume is said to be mounted, if there is one. -/
def mount? (fields : List (String × Json)) : Option Path :=
  match Json.lookup "path" fields with
  | some (.str s) => if s = "" then none else some (.ofText s)
  | _ => none

/-- A removable volume among some is mounted at a path that is too long. -/
def HasLongMount (fs : FileSystem) (volumes : List (List (String × Json))) : Prop :=
  ∃ fields ∈ volumes, isRemovable fields = true ∧
    ∃ path, mount? fields = some path ∧ fs.IsTooLong path

/-! ## One volume -/

variable {fs : FileSystem} {fields : List (String × Json)} {e : Failure}

theorem volumeRoot_of_path {text : String}
    (h : Json.lookup "path" fields = some (.str text)) :
    volumeRoot fs fields = if text = "" then .ok none else
      (fs.isDirectory (.ofText text)).map fun found =>
        if found then
          some ⟨some (.ofText text), .null, (Json.lookup "description" fields).getD (.str "")⟩
        else none := by
  unfold volumeRoot
  rw [h]
  by_cases hempty : text = ""
  · subst hempty
    rfl
  · have htruthy : ((some (Json.str text)).getD .null).truthy = true := Json.truthy_str.mpr hempty
    dsimp only
    rw [if_pos htruthy, if_neg hempty]
    rfl

theorem volumeRoot_eq (h : IsVolume fields) :
    volumeRoot fs fields = match mount? fields with
      | none => .ok none
      | some path => (fs.isDirectory path).map fun found =>
        if found then
          some ⟨some path, .null, (Json.lookup "description" fields).getD (.str "")⟩
        else none := by
  cases hpath : Json.lookup "path" fields with
  | none => simp [volumeRoot, mount?, hpath, Json.truthy]
  | some v =>
    obtain ⟨text, rfl⟩ := h.path v hpath
    rw [volumeRoot_of_path hpath, mount?, hpath]
    by_cases hempty : text = "" <;> simp [hempty]

theorem volumeRoot_eq_some_iff {root : StorageRoot} (h : IsVolume fields) :
    volumeRoot fs fields = .ok (some root) ↔
      ∃ path, mount? fields = some path ∧ fs.isDirectory path = .ok true ∧
        root = ⟨some path, .null, (Json.lookup "description" fields).getD (.str "")⟩ := by
  rw [volumeRoot_eq h]
  cases mount? fields with
  | none => simp
  | some path =>
    simp only [Option.some.injEq, exists_eq_left']
    rcases fs.isDirectory path with e | _ | _ <;> simp [Except.map, eq_comm]

theorem volumeRoot_eq_error_iff (h : IsVolume fields) :
    volumeRoot fs fields = .error e ↔
      ∃ path, mount? fields = some path ∧ fs.IsTooLong path ∧
        e = .system ⟨.nameTooLong, path⟩ := by
  rw [volumeRoot_eq h]
  cases mount? fields with
  | none => simp
  | some path =>
    simp only [Option.some.injEq, exists_eq_left', ← FileSystem.isDirectory_eq_error_iff]
    cases fs.isDirectory path <;> simp [Except.map]

theorem isDirectory_of_volumeRoot {root : StorageRoot}
    (h : volumeRoot fs fields = .ok (some root)) :
    ∃ path, root.path = some path ∧ fs.isDirectory path = .ok true := by
  unfold volumeRoot at h
  dsimp only at h
  split at h
  · obtain ⟨path, -, h⟩ := Failure.bind_eq_ok_iff.mp h
    obtain ⟨found, hfound, h⟩ := Failure.bind_eq_ok_iff.mp h
    cases found with
    | false => cases h
    | true =>
      obtain rfl := Option.some.inj (Except.ok.inj h)
      exact ⟨path, rfl, hfound⟩
  · cases h

/-! ## All volumes -/

theorem removableRoots_cons (fields : List (String × Json)) (entries : List Json) :
    removableRoots fs (.obj fields :: entries) =
      if isRemovable fields then
        (volumeRoot fs fields).bind fun root => (removableRoots fs entries).map (root :: ·)
      else removableRoots fs entries := rfl

/-- The roots that are listed are those of the removable volumes that are mounted. -/
theorem some_mem_removableRoots_iff {entries : List Json} {roots : List (Option StorageRoot)}
    {root : StorageRoot} (h : removableRoots fs entries = .ok roots) :
    some root ∈ roots ↔ ∃ fields, .obj fields ∈ entries ∧ isRemovable fields = true ∧
      volumeRoot fs fields = .ok (some root) := by
  induction entries generalizing roots with
  | nil =>
    obtain rfl := Except.ok.inj h
    simp
  | cons entry entries ih =>
    cases entry with
    | obj first =>
      rw [removableRoots_cons] at h
      split at h
      · rename_i hremovable
        obtain ⟨root?, hfirst, h⟩ := Failure.bind_eq_ok_iff.mp h
        obtain ⟨others, hothers, rfl⟩ := Failure.map_eq_ok_iff.mp h
        simp only [List.mem_cons, ih hothers, or_and_right, exists_or, Json.obj.injEq,
          exists_eq_left, hremovable, true_and, hfirst, Except.ok.injEq, eq_comm (a := root?)]
      · rename_i hfixed
        simp only [List.mem_cons, ih h, or_and_right, exists_or, Json.obj.injEq, exists_eq_left,
          hfixed, Bool.false_eq_true, false_and, false_or]
    | null | bool | int | float | str | arr => contradiction

theorem isDirectory_of_mem_removableRoots {entries : List Json}
    {roots : List (Option StorageRoot)} {root : StorageRoot}
    (h : removableRoots fs entries = .ok roots) (hmem : some root ∈ roots) :
    ∃ path, root.path = some path ∧ fs.isDirectory path = .ok true := by
  obtain ⟨fields, -, -, hroot⟩ := (some_mem_removableRoots_iff h).mp hmem
  exact isDirectory_of_volumeRoot hroot

theorem removableRoots_eq_error {volumes : List (List (String × Json))}
    (htyped : ∀ fields ∈ volumes, IsVolume fields)
    (h : removableRoots fs (volumes.map .obj) = .error e) :
    HasLongMount fs volumes ∧ ∃ path, e = .system ⟨.nameTooLong, path⟩ := by
  induction volumes with
  | nil => contradiction
  | cons fields volumes ih =>
    rw [List.forall_mem_cons] at htyped
    have hlater (h : removableRoots fs (volumes.map .obj) = .error e) :
        HasLongMount fs (fields :: volumes) ∧ ∃ path, e = .system ⟨.nameTooLong, path⟩ := by
      obtain ⟨⟨later, hmem, hlong⟩, hcause⟩ := ih htyped.2 h
      exact ⟨⟨later, List.mem_cons_of_mem fields hmem, hlong⟩, hcause⟩
    rw [List.map_cons, removableRoots_cons] at h
    split at h
    · rename_i hremovable
      cases hroot : volumeRoot fs fields with
      | error e' =>
        rw [hroot] at h
        obtain rfl : e' = e := Except.error.inj h
        obtain ⟨path, hmount, hlong, hcause⟩ := (volumeRoot_eq_error_iff htyped.1).mp hroot
        exact ⟨⟨fields, List.mem_cons_self, hremovable, path, hmount, hlong⟩, path, hcause⟩
      | ok root =>
        rw [hroot] at h
        refine hlater ?_
        cases hrest : removableRoots fs (volumes.map .obj) with
        | error e' => simpa [hrest, Except.bind, Except.map] using h
        | ok roots => simp [hrest, Except.bind, Except.map] at h
    · exact hlater h

theorem removableRoots_of_hasLongMount {volumes : List (List (String × Json))}
    (htyped : ∀ fields ∈ volumes, IsVolume fields) (h : HasLongMount fs volumes) :
    ∃ e, removableRoots fs (volumes.map .obj) = .error e := by
  obtain ⟨fields, hmem, hremovable, path, hmount, hlong⟩ := h
  induction volumes with
  | nil => contradiction
  | cons first volumes ih =>
    rw [List.forall_mem_cons] at htyped
    rw [List.map_cons, removableRoots_cons]
    rcases List.mem_cons.mp hmem with rfl | hmem
    · have hroot := (volumeRoot_eq_error_iff htyped.1).mpr ⟨path, hmount, hlong, rfl⟩
      exact ⟨_, by rw [if_pos hremovable, hroot]; rfl⟩
    · obtain ⟨e, he⟩ := ih htyped.2 hmem
      rw [he]
      split
      · cases volumeRoot fs first with
        | error e' => exact ⟨e', rfl⟩
        | ok root => exact ⟨e, rfl⟩
      · exact ⟨e, rfl⟩

end Local

theorem externalRoots_eq {c : Config} {fs : FileSystem} {entries : List Json}
    (h : c.volumeEntries = .ok entries) :
    (ofConfig c).externalRoots fs = Local.removableRoots fs entries := by
  change (c.volumeEntries >>= fun entries => Local.removableRoots fs entries) = _
  rw [h]
  rfl

end Platform

end BackupLocator
