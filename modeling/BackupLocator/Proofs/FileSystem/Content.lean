import BackupLocator.Proofs.FileSystem.Overwrite

/-!
# What is written is read

A walk that leads to a place for writing leads there for reading too, and it still does so when the
place has been written to. So a path gives the bytes that have been written to it.
-/

namespace BackupLocator

namespace FileSystem

variable {fs fs' : FileSystem}

/-! ## Walks for writing -/

theorem IsEntered.throughLink {name : String} {rest : List String}
    (h : IsEntered .forWriting name rest) : IsEntered .throughLink name rest :=
  ⟨h.moves, by simp, h.notUp, h.short⟩

theorem Leads.forReading {loc : Location} {names : List String} {r : Reach}
    (h : fs.Leads .forWriting loc names r) : fs.Leads .throughLink loc names r := by
  induction h with
  | arrive hs => exact .arrive hs
  | stay hd hstay _ ih => exact .stay hd hstay ih
  | up hd _ _ ih => exact .up hd (by simp) ih
  | free hd hent hn => exact .free hd hent.throughLink hn
  | atLink _ _ _ haim => contradiction
  | link hd hent hl _ => exact .link hd hent.throughLink hl (by simp)
  | down hd hent he hne _ ih => exact .down hd hent.throughLink he hne ih

theorem Arrives.forReading {spot : Spot} {budget : Nat} {loc : Location} {names : List String}
    (h : fs.Arrives .forWriting spot budget loc names) :
    fs.Arrives .throughLink spot budget loc names := by
  induction h with
  | direct hl => exact .direct hl.forReading
  | follow hl _ ih => exact .follow hl.forReading ih

theorem locate_forReading {p : Path} {spot : Spot} (h : fs.locate .forWriting p = .ok spot) :
    fs.locate .throughLink p = .ok spot := by
  obtain ⟨hshort, harrives⟩ := locate_eq_ok_iff.mp h
  exact locate_eq_ok_iff.mpr ⟨hshort, harrives.forReading⟩

/-! ## Places that are taken -/

theorem Leads.of_taken {aim : Aim} {loc l : Location} {names : List String} {r : Reach}
    (h : fs.Leads aim loc names r) (hr : r = .spot (.taken l)) : ∃ e, fs.find? l = some e := by
  induction h with
  | arrive hs =>
    cases hr
    exact Option.isSome_iff_exists.mp hs
  | atLink _ _ hl _ =>
    cases hr
    exact ⟨_, hl⟩
  | stay _ _ _ ih | up _ _ _ ih | down _ _ _ _ _ ih => exact ih hr
  | free | link => simp at hr

theorem Arrives.of_taken {aim : Aim} {budget : Nat} {loc l : Location} {names : List String}
    (h : fs.Arrives aim (.taken l) budget loc names) : ∃ e, fs.find? l = some e := by
  induction h with
  | direct hl => exact hl.of_taken rfl
  | follow _ _ ih => exact ih

theorem locate_taken {aim : Aim} {p : Path} {loc : Location}
    (h : fs.locate aim p = .ok (.taken loc)) : ∃ e, fs.find? loc = some e :=
  (locate_eq_ok_iff.mp h).2.of_taken

/-! ## Writing, then reading -/

variable {p : Path} {content : List UInt8}

theorem overwrite_of_write (h : fs.write p content = .ok fs') :
    p.hasNul = false ∧ ∃ spot, fs.locate .forWriting p = .ok spot ∧
      Overwrite fs fs' spot.place (.file content) := by
  unfold write at h
  split at h
  · contradiction
  rename_i hnul
  refine ⟨by simpa using hnul, ?_⟩
  split at h
  · contradiction
  · rename_i dir name hspot
    obtain rfl := Except.ok.inj h
    exact ⟨_, hspot, .add (locate_free hspot).2 (by simp)⟩
  · rename_i loc hspot
    obtain ⟨old, hold⟩ := locate_taken hspot
    split at h
    · contradiction
    · rename_i hdirectory
      obtain rfl := Except.ok.inj h
      refine ⟨_, hspot, .replace hold ?_ (by simp)⟩
      rintro rfl
      exact hdirectory hold

/-- A path leads to the file that has been written to it. -/
theorem locate_of_write (h : fs.write p content = .ok fs') : p.hasNul = false ∧
    ∃ loc, fs'.locate .throughLink p = .ok (.taken loc) ∧ fs'.find? loc = some (.file content) := by
  obtain ⟨hnul, spot, hspot, ho⟩ := overwrite_of_write h
  exact ⟨hnul, spot.place, ho.locate (locate_forReading hspot) (by simp), ho.here⟩

/-- A path names something once it has been written to. -/
theorem isPresent_of_write (h : fs.write p content = .ok fs') : fs'.isPresent p = .ok true := by
  obtain ⟨hnul, loc, hloc, hfile⟩ := locate_of_write h
  simp [isPresent, probe, hnul, hloc, hfile, Except.map]

/-- A path gives the bytes that have been written to it. -/
theorem read_of_write (h : fs.write p content = .ok fs') : fs'.read p = .ok content := by
  obtain ⟨hnul, loc, hloc, hfile⟩ := locate_of_write h
  simp [read, hnul, hloc, hfile]

end FileSystem

end BackupLocator
