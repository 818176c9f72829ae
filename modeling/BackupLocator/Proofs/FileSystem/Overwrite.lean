import BackupLocator.FileSystem.File
import BackupLocator.Proofs.FileSystem.Walk

/-!
# One place changed

A place that holds no directory gets a directory or a file, and the rest is the same. Of the places
on its way a walk asks which are directories and links, and none of those has changed; so a walk
that led to the place still leads there.
-/

namespace BackupLocator

namespace FileSystem

variable {fs fs' : FileSystem}

/-- The place at a spot. -/
def Spot.place : Spot → Location
  | taken loc => loc
  | free dir name => name :: dir

/-- A place that held no directory holds an entry that is no link, and the rest is the same. -/
structure Overwrite (fs fs' : FileSystem) (place : Location) (e : Entry) : Prop where
  noDirectory : fs.find? place ≠ some .directory
  noLink : ∀ target, e ≠ .link target
  here : fs'.find? place = some e
  elsewhere : ∀ {loc}, loc ≠ place → fs'.find? loc = fs.find? loc
  workingDirectory : fs'.workingDirectory = fs.workingDirectory

namespace Overwrite

variable {place loc : Location} {e : Entry}

theorem add {name : String} {dir : Location} (h : fs.find? (name :: dir) = none)
    (he : ∀ target, e ≠ .link target) : Overwrite fs (fs.add (name :: dir) e) (name :: dir) e where
  noDirectory := by simp [h]
  noLink := he
  here := find?_add_self fs name dir e
  elsewhere hne := find?_add_ne fs hne e
  workingDirectory := rfl

theorem replace {old : Entry} (h : fs.find? loc = some old) (hd : old ≠ .directory)
    (he : ∀ target, e ≠ .link target) : Overwrite fs (fs.replace loc e) loc e where
  noDirectory := by simpa [h] using hd
  noLink := he
  here := by
    refine find?_replace_self h ?_ e
    rintro rfl
    exact hd (Option.some.inj h).symm
  elsewhere hne := find?_replace_ne fs hne e
  workingDirectory := rfl

theorem directory (ho : Overwrite fs fs' place e) (h : fs.find? loc = some .directory) :
    fs'.find? loc = some .directory := by
  have hne : loc ≠ place := by
    rintro rfl
    exact ho.noDirectory h
  rw [ho.elsewhere hne, h]

/-- What a walk can pass without following it can be passed afterwards. -/
theorem passable (ho : Overwrite fs fs' place e) {old : Entry} (h : fs.find? loc = some old)
    (hne : ∀ target, old ≠ .link target) :
    ∃ e', fs'.find? loc = some e' ∧ ∀ target, e' ≠ .link target := by
  by_cases hloc : loc = place
  · subst hloc
    exact ⟨e, ho.here, ho.noLink⟩
  · exact ⟨old, by rw [ho.elsewhere hloc, h], hne⟩

end Overwrite

/-! ## Walks -/

variable {aim : Aim} {spot : Spot} {e : Entry}

theorem Leads.overwrite {loc : Location} {names : List String} {r : Reach}
    (h : fs.Leads aim loc names r) (hr : r = .spot spot) (ho : Overwrite fs fs' spot.place e) :
    fs'.Leads aim loc names (.spot (.taken spot.place)) := by
  have harrive : fs'.Leads aim spot.place [] (.spot (.taken spot.place)) :=
    .arrive (Option.isSome_of_eq_some ho.here)
  induction h with
  | arrive =>
    cases hr
    exact harrive
  | stay hd hstay _ ih => exact .stay (ho.directory hd) hstay (ih hr)
  | up hd hslash _ ih => exact .up (ho.directory hd) hslash (ih hr)
  | free hd hent | atLink hd hent =>
    cases hr
    exact .down (ho.directory hd) hent ho.here ho.noLink harrive
  | link => simp at hr
  | down hd hent hold hne _ ih =>
    obtain ⟨e', he', hne'⟩ := ho.passable hold hne
    exact .down (ho.directory hd) hent he' hne' (ih hr)

theorem Leads.overwrite_link {loc dir place : Location} {names rest : List String} {r : Reach}
    {target : Target} (h : fs.Leads aim loc names r) (hr : r = .link dir target rest)
    (ho : Overwrite fs fs' place e)
    (hlink : ∀ name, name :: dir = place → fs.find? place ≠ some (.link target)) :
    fs'.Leads aim loc names r := by
  induction h with
  | stay hd hstay _ ih => exact .stay (ho.directory hd) hstay (ih hr)
  | up hd hslash _ ih => exact .up (ho.directory hd) hslash (ih hr)
  | @link loc name target rest hd hent hl hlast =>
    cases hr
    have hne : name :: dir ≠ place := by
      rintro rfl
      exact hlink name rfl hl
    rw [← ho.elsewhere hne] at hl
    exact .link (ho.directory hd) hent hl hlast
  | down hd hent hold hne _ ih =>
    obtain ⟨e', he', hne'⟩ := ho.passable hold hne
    exact .down (ho.directory hd) hent he' hne' (ih hr)
  | arrive | free | atLink => simp at hr

/-! A walk that does not stop at links goes to the target of a link and never to what stands below
the link. -/

/-- The place that a walk has come to. -/
def Reach.place : Reach → Location
  | .spot (.taken loc) => loc
  | .spot (.free dir _) => dir
  | .link dir _ _ => dir

theorem Leads.outside {loc l : Location} {target : Target} {names : List String} {r : Reach}
    (h : fs.Leads aim loc names r) (haim : aim ≠ .atEntry) (hl : fs.find? l = some (.link target))
    (hout : ¬l <:+ loc) : ¬l <:+ r.place := by
  induction h with
  | stay _ _ _ ih => exact ih hout
  | up _ _ _ ih => exact ih fun hsuffix => hout (hsuffix.trans (List.drop_suffix 1 _))
  | atLink _ _ _ hat => exact absurd hat haim
  | @down loc name rest old r _ _ hold hne _ ih =>
    refine ih fun hsuffix => ?_
    rcases List.suffix_cons_iff.mp hsuffix with heq | hsuffix
    · rw [heq, hold, Option.some.injEq] at hl
      exact hne target hl
    · exact hout hsuffix
  | arrive | free | link => exact hout

theorem Arrives.outside {budget : Nat} {loc l place : Location} {target : Target}
    {names : List String} (h : fs.Arrives aim (.taken place) budget loc names)
    (haim : aim ≠ .atEntry) (hl : fs.find? l = some (.link target)) (hout : ¬l <:+ loc) :
    ¬l <:+ place := by
  induction h with
  | direct hleads => exact hleads.outside haim hl hout
  | @follow less loc names dir next rest hleads _ ih =>
    have hdir : ¬l <:+ dir := hleads.outside haim hl hout
    refine ih ?_
    rw [start]
    split
    · rw [List.suffix_nil]
      rintro rfl
      simp at hl
    · exact hdir

theorem Arrives.overwrite {budget : Nat} {loc : Location} {names : List String}
    (h : fs.Arrives aim spot budget loc names) (ho : Overwrite fs fs' spot.place e)
    (haim : aim = .atEntry → fs.find? spot.place = none) :
    fs'.Arrives aim (.taken spot.place) budget loc names := by
  induction h with
  | direct hl => exact .direct (hl.overwrite rfl ho)
  | @follow less loc names dir target rest hl harrives ih =>
    refine .follow (hl.overwrite_link rfl ho ?_) ih
    intro name hplace hlink
    have hthrough : aim ≠ .atEntry := by
      intro hat
      simp [haim hat] at hlink
    cases spot with
    | free => simp [Spot.place, harrives.of_free.2] at hlink
    | taken place =>
      -- The walk would have to come back to the link that it has just followed.
      refine harrives.outside hthrough hlink ?_ (List.suffix_refl place)
      intro hsuffix
      rw [start, ← (hplace : name :: dir = place)] at hsuffix
      split at hsuffix
      · simp at hsuffix
      · exact absurd hsuffix.length_le (by simp)

theorem Overwrite.locate {p : Path} (ho : Overwrite fs fs' spot.place e)
    (h : fs.locate aim p = .ok spot) (haim : aim = .atEntry → fs.find? spot.place = none) :
    fs'.locate aim p = .ok (.taken spot.place) := by
  obtain ⟨hshort, harrives⟩ := locate_eq_ok_iff.mp h
  rw [← ho.workingDirectory] at harrives
  exact locate_eq_ok_iff.mpr ⟨hshort, harrives.overwrite ho haim⟩

end FileSystem

end BackupLocator
