import BackupLocator.FileSystem

/-!
# Files

The content of a file is read and written whole. Writing to a path that ends in a link writes to
where the link leads, and makes a file there if there is none.
-/

namespace BackupLocator.FileSystem

/-- The bytes of a file. -/
def read (fs : FileSystem) (p : Path) : Except Failure (List UInt8) :=
  if p.hasNul then .error .malformed
  else match fs.locate .throughLink p with
    | .error e => .error (.system ⟨e, p⟩)
    | .ok (.free _ _) => .error (.system ⟨.noEntry, p⟩)
    | .ok (.taken loc) =>
      match fs.find? loc with
      | some (.file content) => .ok content
      | some .directory => .error (.system ⟨.isDirectory, p⟩)
      | _ => .error (.system ⟨.noEntry, p⟩)

/-- The file system with the entries of a tree replaced. -/
def replace (fs : FileSystem) (loc : Location) (e : Entry) : FileSystem :=
  { fs with entries := fs.entries.map fun x => if x.1 = loc then (loc, e) else x }

theorem find?_replace_self {fs : FileSystem} {loc : Location} {old : Entry}
    (h : fs.find? loc = some old) (hne : loc ≠ []) (e : Entry) :
    (fs.replace loc e).find? loc = some e := by
  obtain ⟨name, dir, rfl⟩ := List.exists_cons_of_ne_nil hne
  change fs.entries.lookup (name :: dir) = some old at h
  change List.lookup (name :: dir) (fs.entries.map _) = some e
  generalize fs.entries = entries at h ⊢
  induction entries with
  | nil => simp at h
  | cons x entries ih =>
    obtain ⟨loc', e'⟩ := x
    by_cases hx : loc' = name :: dir
    · simp [hx]
    · have hb : ((name :: dir) == loc') = false := by simpa using Ne.symm hx
      simp only [List.lookup_cons, hb] at h
      simpa [hx, hb, List.lookup_cons] using ih h

theorem find?_replace_ne (fs : FileSystem) {loc loc' : Location} (h : loc' ≠ loc) (e : Entry) :
    (fs.replace loc e).find? loc' = fs.find? loc' := by
  cases loc' with
  | nil => rfl
  | cons name dir =>
    change List.lookup (name :: dir) (fs.entries.map _) = fs.entries.lookup (name :: dir)
    induction fs.entries with
    | nil => rfl
    | cons x entries ih =>
      obtain ⟨other, e'⟩ := x
      by_cases hx : other = loc
      · have hb : ((name :: dir) == loc) = false := by simpa using h
        simpa [hx, hb, List.lookup_cons] using ih
      · simp [hx, List.lookup_cons, ih]

/-- The file system with a file of the given bytes. -/
def write (fs : FileSystem) (p : Path) (content : List UInt8) : Except Failure FileSystem :=
  if p.hasNul then .error .malformed
  else match fs.locate .forWriting p with
    | .error e => .error (.system ⟨e, p⟩)
    | .ok (.free dir name) => .ok (fs.add (name :: dir) (.file content))
    | .ok (.taken loc) =>
      match fs.find? loc with
      | some .directory => .error (.system ⟨.isDirectory, p⟩)
      | _ => .ok (fs.replace loc (.file content))

end BackupLocator.FileSystem
