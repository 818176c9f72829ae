import BackupLocator.Proofs.Path
import BackupLocator.Proofs.Platform.Handle

/-!
# Handles stay on their mount

The tag of a document id selects one mount: that of the default storage, or that of the first volume
of this identity. What a handle leads to is a directory whose path is that of the mount, followed by
segments of which none goes up. However a handle spells a path of its own or a step up, it leads
nowhere.
-/

namespace BackupLocator.Platform

namespace Local

/-- Among some entries, certain fields are those of the first volume of an identity. -/
def IsFirstVolume (tag : String) (entries : List Json) (fields : List (String × Json)) : Prop :=
  ∃ (before : List (List (String × Json))) (after : List Json),
    entries = before.map .obj ++ .obj fields :: after ∧
      (∀ other ∈ before, Json.lookup "uuid" other ≠ some (.str tag)) ∧
      Json.lookup "uuid" fields = some (.str tag)

/-- `Mounts c tag base`: the tag `tag` selects the mount at `base`. -/
inductive Mounts (c : Config) : String → Path → Prop
  /-- The default storage. -/
  | primary {base : Path} (hplace : c.storagePlace.path? = .ok (some base)) :
      Mounts c primaryTag base
  /-- The first volume of an identity, if it is said where that is mounted. -/
  | volume {tag text : String} {entries : List Json} {fields : List (String × Json)}
      (htag : tag ≠ primaryTag) (hentries : c.volumeEntries = .ok entries)
      (hfirst : IsFirstVolume tag entries fields)
      (hpath : Json.lookup "path" fields = some (.str text)) : Mounts c tag (.ofText text)

variable {c : Config} {tag : String} {base : Path}

/-! ## The volume of an identity -/

section

variable {first fields : List (String × Json)} {entries : List Json}

theorem isFirstVolume_cons_of_eq (hfirst : Json.lookup "uuid" first = some (.str tag)) :
    IsFirstVolume tag (.obj first :: entries) fields ↔ first = fields := by
  constructor
  · rintro ⟨before, after, hentries, hbefore, -⟩
    cases before with
    | nil => simp_all
    | cons other before =>
      obtain rfl : first = other := by simpa using (List.cons.inj hentries).1
      exact absurd hfirst (hbefore first List.mem_cons_self)
  · rintro rfl
    exact ⟨[], entries, rfl, by simp, hfirst⟩

theorem isFirstVolume_cons_of_ne (hfirst : Json.lookup "uuid" first ≠ some (.str tag)) :
    IsFirstVolume tag (.obj first :: entries) fields ↔ IsFirstVolume tag entries fields := by
  constructor
  · rintro ⟨before, after, hentries, hbefore, huuid⟩
    cases before with
    | nil =>
      obtain rfl : first = fields := by simpa using (List.cons.inj hentries).1
      exact absurd huuid hfirst
    | cons other before =>
      exact ⟨before, after, (List.cons.inj hentries).2,
        fun o ho => hbefore o (List.mem_cons_of_mem other ho), huuid⟩
  · rintro ⟨before, after, rfl, hbefore, huuid⟩
    exact ⟨first :: before, after, rfl, by simpa [hfirst] using hbefore, huuid⟩

theorem findVolume_cons (first : List (String × Json)) (entries : List Json) :
    findVolume tag (.obj first :: entries) =
      if Json.lookup "uuid" first = some (.str tag) then .ok (some first)
      else findVolume tag entries := rfl

/-- The volume that is found is the first one of its identity, and all before it have fields. -/
theorem findVolume_eq_some_iff :
    findVolume tag entries = .ok (some fields) ↔ IsFirstVolume tag entries fields := by
  induction entries with
  | nil =>
    constructor
    · intro h
      simp [findVolume] at h
    · rintro ⟨before, after, hentries, -⟩
      simp at hentries
  | cons entry entries ih =>
    cases entry with
    | obj first =>
      rw [findVolume_cons]
      split
      · rename_i hfirst
        simp [isFirstVolume_cons_of_eq hfirst]
      · rename_i hfirst
        rw [ih, isFirstVolume_cons_of_ne hfirst]
    | null | bool | int | float | str | arr =>
      -- An entry without fields is an error here, and no part of such a list.
      constructor
      · intro h
        contradiction
      · rintro ⟨before, after, hentries, -⟩
        cases before <;> simp at hentries

end

/-! ## The mount of a tag -/

/-- Only a text says where a volume is mounted. -/
theorem path?_ofJson_eq_some_iff {v : Json} :
    (Place.ofJson v).path? = .ok (some base) ↔ ∃ text, v = .str text ∧ .ofText text = base := by
  cases v <;> simp [Place.ofJson, Place.path?]

theorem mountOf_eq_some_iff :
    (mountOf c tag).bind Place.path? = .ok (some base) ↔ Mounts c tag base := by
  constructor
  · intro h
    obtain ⟨mount, hmount, hbase⟩ := Failure.bind_eq_ok_iff.mp h
    unfold mountOf at hmount
    split at hmount
    · rename_i htag
      subst htag
      obtain rfl := Except.ok.inj hmount
      exact .primary hbase
    · rename_i htag
      obtain ⟨entries, hentries, hmount⟩ := Failure.bind_eq_ok_iff.mp hmount
      obtain ⟨found, hfound, hmount⟩ := Failure.bind_eq_ok_iff.mp hmount
      cases found with
      | none =>
        obtain rfl : Place.nowhere = mount := Except.ok.inj hmount
        simp [Place.path?] at hbase
      | some fields =>
        obtain rfl := Except.ok.inj hmount
        obtain ⟨text, htext, rfl⟩ := path?_ofJson_eq_some_iff.mp hbase
        have hpath : Json.lookup "path" fields = some (.str text) := by
          cases hlookup : Json.lookup "path" fields with
          | none => simp [hlookup] at htext
          | some v => simpa [hlookup] using htext
        exact .volume htag hentries (findVolume_eq_some_iff.mp hfound) hpath
  · intro h
    cases h with
    | primary hplace => simpa [mountOf, Except.bind] using hplace
    | volume htag hentries hfirst hpath =>
      have hfound := findVolume_eq_some_iff.mpr hfirst
      simp [mountOf, htag, hentries, hfound, hpath, bind, pure, Except.bind, Except.pure,
        path?_ofJson_eq_some_iff]

/-! ## Handles -/

section

variable {fs : FileSystem} {handle id : String} {path : Path}

/-- A handle that leads to a path can be read. -/
theorem exists_documentId (h : handlePath c fs handle = .ok path) :
    handle ≠ "" ∧ ∃ id, Handle.documentId handle = .ok id := by
  unfold handlePath at h
  split at h
  · contradiction
  · rename_i hne
    obtain ⟨id, hid, -⟩ := Failure.bind_eq_ok_iff.mp h
    exact ⟨hne, id, hid⟩

/-- A way on a mount that does not go up leads to the directory that is there. -/
theorem handlePath_of_mounts (hne : handle ≠ "") (hid : Handle.documentId handle = .ok id)
    (hmount : Mounts c (Handle.volumeTag id) base)
    (hrelative : (Path.ofText (Handle.relativePath id)).isAbsolute = false)
    (hup : ".." ∉ (Path.ofText (Handle.relativePath id)).parts)
    (hfound : fs.isDirectory (base.join (.ofText (Handle.relativePath id))) = .ok true) :
    handlePath c fs handle = .ok (base.join (.ofText (Handle.relativePath id))) := by
  obtain ⟨mount, hmount, hbase⟩ := Failure.bind_eq_ok_iff.mp (mountOf_eq_some_iff.mpr hmount)
  have hsomewhere : mount ≠ .nowhere := by
    rintro rfl
    simp [Place.path?] at hbase
  simp [handlePath, hne, hid, hmount, hsomewhere, hrelative, hup, hbase, hfound, bind, pure,
    Except.bind, Except.pure]

end

end Local

/-- A handle of configured volumes leads to a path if and only if that is a directory, and its parts
are those of the mount that the tag of the document id selects, followed by those of the relative
path that the id names, of which none goes up. -/
theorem handlePath_is_confined_iff (c : Config) (fs : FileSystem) (handle : String) (path : Path) :
    (ofConfig c).handlePath fs handle = .ok path ↔
      fs.isDirectory path = .ok true ∧ handle ≠ "" ∧
        ∃ id base, Handle.documentId handle = .ok id ∧ Local.Mounts c (Handle.volumeTag id) base ∧
          let relative := Path.ofText (Handle.relativePath id)
          relative.anchor = .relative ∧ ".." ∉ relative.parts ∧
            path.Continues base relative.parts := by
  have hpath : (ofConfig c).handlePath = Local.handlePath c := rfl
  rw [hpath]
  constructor
  · intro h
    obtain ⟨hne, id, hid⟩ := Local.exists_documentId h
    obtain ⟨base, hbase, hrelative, hup, rfl, hfound⟩ := Local.handlePath_eq_ok h hid
    refine ⟨hfound, hne, id, base, hid, Local.mountOf_eq_some_iff.mp hbase, ?_, hup,
      Path.join_continues hrelative⟩
    simpa [Path.isAbsolute] using hrelative
  · rintro ⟨hfound, hne, id, base, hid, hmount, hanchor, hup, hcontinues⟩
    have hrelative : (Path.ofText (Handle.relativePath id)).isAbsolute = false := by
      simp [Path.isAbsolute, hanchor]
    have hjoin := Path.join_continues (p := base) hrelative
    obtain rfl : path = base.join (.ofText (Handle.relativePath id)) :=
      Path.ext (hcontinues.1.trans hjoin.1.symm) (hcontinues.2.trans hjoin.2.symm)
    exact Local.handlePath_of_mounts hne hid hmount hrelative hup hfound

/-- A step up leads nowhere, escaped and behind a point as it may be. -/
example :
    let handle := "content://documents/tree/primary%3A.%2F%2E%2E"
    (ofConfig .default).handlePath .empty handle =
      .error (.badHandle (.escapes "primary" handle)) := rfl

end BackupLocator.Platform
