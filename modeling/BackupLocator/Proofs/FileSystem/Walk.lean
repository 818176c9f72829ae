import BackupLocator.FileSystem

/-!
# Walks

What a walk along names sees on its way, as a judgement: each rule is one step, and holds exactly
the questions that the step asks of the file system. A walk that succeeds is a derivation, so facts
about walks are proved rule by rule.
-/

namespace BackupLocator

namespace FileSystem

/-- A name below a directory at which a walk looks: not the directory itself, not the one above it,
not too long, and no file to be made with a slash behind it. -/
structure IsEntered (aim : Aim) (name : String) (rest : List String) : Prop where
  moves : Ending.isStay name = false
  noSlash : ¬(aim = .forWriting ∧ rest = [Ending.slashName])
  notUp : name ≠ ".."
  short : name.utf8ByteSize ≤ nameLimit

/-- A walk along names comes as far as said without following a link. -/
inductive Leads (fs : FileSystem) (aim : Aim) : Location → List String → Reach → Prop
  | arrive {loc} : (fs.find? loc).isSome → Leads fs aim loc [] (.spot (.taken loc))
  | stay {loc name rest r} : fs.find? loc = some .directory → Ending.isStay name = true →
      Leads fs aim loc rest r → Leads fs aim loc (name :: rest) r
  | up {loc rest r} : fs.find? loc = some .directory →
      ¬(aim = .forWriting ∧ rest = [Ending.slashName]) →
      Leads fs aim (loc.drop 1) rest r → Leads fs aim loc (".." :: rest) r
  | free {loc name} : fs.find? loc = some .directory → IsEntered aim name [] →
      fs.find? (name :: loc) = none → Leads fs aim loc [name] (.spot (.free loc name))
  | atLink {loc name target} : fs.find? loc = some .directory → IsEntered aim name [] →
      fs.find? (name :: loc) = some (.link target) → aim = .atEntry →
      Leads fs aim loc [name] (.spot (.taken (name :: loc)))
  | link {loc name target rest} : fs.find? loc = some .directory → IsEntered aim name rest →
      fs.find? (name :: loc) = some (.link target) → ¬(rest = [] ∧ aim = .atEntry) →
      Leads fs aim loc (name :: rest) (.link loc target rest)
  | down {loc name rest e r} : fs.find? loc = some .directory → IsEntered aim name rest →
      fs.find? (name :: loc) = some e → (∀ target, e ≠ .link target) →
      Leads fs aim (name :: loc) rest r → Leads fs aim loc (name :: rest) r

theorem leads_of_advance {fs : FileSystem} {aim : Aim} {loc : Location} {names : List String}
    {r : Reach} (h : fs.advance aim loc names = .ok r) : fs.Leads aim loc names r := by
  induction names generalizing loc with
  | nil =>
    rw [advance] at h
    split at h
    · rename_i hs
      obtain rfl : Reach.spot (.taken loc) = r := by simpa using h
      exact .arrive hs
    · contradiction
  | cons name rest ih =>
    rw [advance] at h
    split at h
    · contradiction
    · rename_i hd
      by_cases hstay : Ending.isStay name = true
      · rw [if_pos hstay] at h
        exact .stay hd hstay (ih h)
      rw [if_neg hstay] at h
      by_cases hslash : aim = .forWriting ∧ rest = [Ending.slashName]
      · rw [if_pos hslash] at h
        contradiction
      rw [if_neg hslash] at h
      by_cases hup : name = ".."
      · rw [if_pos hup] at h
        subst hup
        exact .up hd hslash (ih h)
      rw [if_neg hup] at h
      by_cases hlong : nameLimit < name.utf8ByteSize
      · rw [if_pos hlong] at h
        contradiction
      rw [if_neg hlong] at h
      -- The name has passed all four tests, so the walk looks at it.
      have hent : IsEntered aim name rest :=
        ⟨by simpa using hstay, hslash, hup, Nat.le_of_not_lt hlong⟩
      split at h
      · rename_i hn
        split at h
        · rename_i hr
          subst hr
          obtain rfl : Reach.spot (.free loc name) = r := by simpa using h
          exact .free hd hent hn
        · contradiction
      · rename_i target hl
        split at h
        · rename_i hr
          obtain ⟨rfl, haim⟩ := hr
          obtain rfl : Reach.spot (.taken (name :: loc)) = r := by simpa using h
          exact .atLink hd hent hl haim
        · rename_i hr
          obtain rfl : Reach.link loc target rest = r := by simpa using h
          exact .link hd hent hl hr
      · rename_i e hne he
        exact .down hd hent he hne (ih h)
    · contradiction

/-- The look at a name, behind the four tests that an entered name has passed. -/
theorem IsEntered.advance {aim : Aim} {name : String} {rest : List String}
    (h : IsEntered aim name rest) {fs : FileSystem} {loc : Location}
    (hd : fs.find? loc = some .directory) {x : Option Entry} (hx : fs.find? (name :: loc) = x) :
    fs.advance aim loc (name :: rest) = match x with
      | none => if rest = [] then .ok (.spot (.free loc name)) else .error .noEntry
      | some (.link target) =>
        if rest = [] ∧ aim = .atEntry then .ok (.spot (.taken (name :: loc)))
        else .ok (.link loc target rest)
      | some _ => fs.advance aim (name :: loc) rest := by
  rw [FileSystem.advance, hd]
  simp only [h.moves, h.notUp, Nat.not_lt.mpr h.short, if_neg h.noSlash, Bool.false_eq_true,
    if_false, hx]
  cases x with
  | none => rfl
  | some e => cases e <;> rfl

theorem Leads.advance {fs : FileSystem} {aim : Aim} {loc : Location} {names : List String}
    {r : Reach} (h : fs.Leads aim loc names r) : fs.advance aim loc names = .ok r := by
  induction h with
  | arrive hs => rw [FileSystem.advance, if_pos hs]
  | stay hd hstay _ ih =>
    rw [FileSystem.advance, hd]
    simp only [if_pos hstay, ih]
  | up hd hslash _ ih =>
    have hmoves : Ending.isStay ".." = false := by decide
    rw [FileSystem.advance, hd]
    simp only [hmoves, if_neg hslash, if_true, Bool.false_eq_true, if_false, ih]
  | free hd hent hn => simp [hent.advance hd hn]
  | atLink hd hent hl haim =>
    rw [hent.advance hd hl]
    exact if_pos ⟨rfl, haim⟩
  | link hd hent hl hr => simp [hent.advance hd hl, if_neg hr]
  | @down loc name rest e r hd hent he hne _ ih =>
    rw [hent.advance hd he]
    cases e with
    | link target => exact absurd rfl (hne target)
    | directory | file => exact ih

/-- A walk that ends at a free name is in a directory that does not have it. -/
theorem Leads.of_free {fs : FileSystem} {aim : Aim} {loc : Location} {names : List String}
    {r : Reach} (h : fs.Leads aim loc names r) {dir : Location} {name : String}
    (hr : r = .spot (.free dir name)) :
    fs.find? dir = some .directory ∧ fs.find? (name :: dir) = none := by
  induction h with
  | free hd _ hn =>
    cases hr
    exact ⟨hd, hn⟩
  | stay _ _ _ ih | up _ _ _ ih | down _ _ _ _ _ ih => exact ih hr
  | arrive | atLink | link => simp at hr

/-- A walk to a free name, or to a link on the way, goes on in the same way when the link at the
end of the path is to be followed. -/
theorem Leads.throughLink {fs : FileSystem} {loc : Location} {names : List String} {r : Reach}
    (h : fs.Leads .atEntry loc names r) (hr : ∀ l, r ≠ .spot (.taken l)) :
    fs.Leads .throughLink loc names r := by
  have entered {name rest} (hent : IsEntered .atEntry name rest) :
      IsEntered .throughLink name rest := ⟨hent.moves, by simp, hent.notUp, hent.short⟩
  induction h with
  | arrive => exact absurd rfl (hr _)
  | stay hd hstay _ ih => exact .stay hd hstay (ih hr)
  | up hd _ _ ih => exact .up hd (by simp) (ih hr)
  | free hd hent hn => exact .free hd (entered hent) hn
  | atLink => exact absurd rfl (hr _)
  | link hd hent hl _ => exact .link hd (entered hent) hl (by simp)
  | down hd hent he hne _ ih => exact .down hd (entered hent) he hne (ih hr)

/-- A walk that stops on the way does so too when the link at the end of the path is to be followed.
-/
theorem advance_throughLink_of_error {fs : FileSystem} {loc : Location} {names : List String}
    {errno : Errno} (h : fs.advance .atEntry loc names = .error errno) :
    fs.advance .throughLink loc names = .error errno := by
  induction names generalizing loc with
  | nil => exact h
  | cons name rest ih =>
    rw [advance] at h ⊢
    cases hfound : fs.find? loc with
    | none => simpa [hfound] using h
    | some entry =>
      cases entry with
      | file content => simpa [hfound] using h
      | link target => simpa [hfound] using h
      | directory =>
        rw [hfound] at h
        simp only [reduceCtorEq, false_and, if_false] at h ⊢
        split
        · rename_i hstay
          rw [if_pos hstay] at h
          exact ih h
        rename_i hstay
        rw [if_neg hstay] at h
        split
        · rename_i hup
          rw [if_pos hup] at h
          exact ih h
        rename_i hup
        rw [if_neg hup] at h
        split
        · rename_i hlong
          rwa [if_pos hlong] at h
        rename_i hlong
        rw [if_neg hlong] at h
        split at h
        · exact h
        -- The link at the end of the path is where the one walk has arrived.
        · split at h <;> contradiction
        · exact ih h

/-- A walk that comes to something, or to a link on the way, comes to something too when the link at
the end of the path is not to be followed. -/
theorem Leads.atEntry {fs : FileSystem} {loc : Location} {names : List String} {r : Reach}
    (h : fs.Leads .throughLink loc names r) (hr : ∀ dir name, r ≠ .spot (.free dir name)) :
    fs.Leads .atEntry loc names r ∨ ∃ l, fs.Leads .atEntry loc names (.spot (.taken l)) := by
  have entered {name rest} (hent : IsEntered .throughLink name rest) :
      IsEntered .atEntry name rest := ⟨hent.moves, by simp, hent.notUp, hent.short⟩
  induction h with
  | arrive hs => exact .inl (.arrive hs)
  | stay hd hstay _ ih =>
    rcases ih hr with h | ⟨l, h⟩
    · exact .inl (.stay hd hstay h)
    · exact .inr ⟨l, .stay hd hstay h⟩
  | up hd _ _ ih =>
    rcases ih hr with h | ⟨l, h⟩
    · exact .inl (.up hd (by simp) h)
    · exact .inr ⟨l, .up hd (by simp) h⟩
  | free => exact absurd rfl (hr _ _)
  | atLink _ _ _ haim => contradiction
  | @link loc name target rest hd hent hl _ =>
    by_cases hlast : rest = []
    · subst hlast
      exact .inr ⟨_, .atLink hd (entered hent) hl rfl⟩
    · exact .inl (.link hd (entered hent) hl (by simp [hlast]))
  | down hd hent he hne _ ih =>
    rcases ih hr with h | ⟨l, h⟩
    · exact .inl (.down hd (entered hent) he hne h)
    · exact .inr ⟨l, .down hd (entered hent) he hne h⟩

/-! ## Walks that follow links -/

/-- A walk that follows links ends at a spot: it comes there without one, or it ends there from the
target of the first one, with a smaller budget. -/
inductive Arrives (fs : FileSystem) (aim : Aim) (spot : Spot) :
    Nat → Location → List String → Prop
  | direct {budget loc names} : fs.Leads aim loc names (.spot spot) →
      Arrives fs aim spot budget loc names
  | follow {less loc names dir target rest} : fs.Leads aim loc names (.link dir target rest) →
      Arrives fs aim spot less (start dir target.path) (target.names ++ rest) →
      Arrives fs aim spot (less + 1) loc names

theorem arrives_of_walk {fs : FileSystem} {aim : Aim} {budget : Nat} {loc : Location}
    {names : List String} {spot : Spot} (h : fs.walk aim budget loc names = .ok spot) :
    fs.Arrives aim spot budget loc names := by
  induction budget generalizing loc names with
  | zero =>
    rw [walk] at h
    split at h
    · contradiction
    · rename_i hs
      obtain rfl := Except.ok.inj h
      exact .direct (leads_of_advance hs)
    · contradiction
  | succ less ih =>
    rw [walk] at h
    split at h
    · contradiction
    · rename_i hs
      obtain rfl := Except.ok.inj h
      exact .direct (leads_of_advance hs)
    · rename_i dir target rest hl
      exact .follow (leads_of_advance hl) (ih h)

theorem Arrives.walk {fs : FileSystem} {aim : Aim} {spot : Spot} {budget : Nat} {loc : Location}
    {names : List String} (h : fs.Arrives aim spot budget loc names) :
    fs.walk aim budget loc names = .ok spot := by
  induction h with
  | direct hl => rw [walk.eq_def, hl.advance]
  | follow hl _ ih =>
    rw [FileSystem.walk, hl.advance]
    exact ih

theorem walk_eq_ok_iff {fs : FileSystem} {aim : Aim} {budget : Nat} {loc : Location}
    {names : List String} {spot : Spot} :
    fs.walk aim budget loc names = .ok spot ↔ fs.Arrives aim spot budget loc names :=
  ⟨arrives_of_walk, Arrives.walk⟩

theorem Arrives.of_free {fs : FileSystem} {aim : Aim} {budget : Nat} {loc dir : Location}
    {names : List String} {name : String}
    (h : fs.Arrives aim (.free dir name) budget loc names) :
    fs.find? dir = some .directory ∧ fs.find? (name :: dir) = none := by
  induction h with
  | direct hl => exact hl.of_free rfl
  | follow _ _ ih => exact ih

theorem Arrives.throughLink {fs : FileSystem} {budget : Nat} {loc dir : Location}
    {names : List String} {name : String}
    (h : fs.Arrives .atEntry (.free dir name) budget loc names) :
    fs.Arrives .throughLink (.free dir name) budget loc names := by
  induction h with
  | direct hl => exact .direct (hl.throughLink (by simp))
  | follow hl _ ih => exact .follow (hl.throughLink (by simp)) ih

theorem Arrives.atEntry {fs : FileSystem} {budget : Nat} {loc l : Location} {names : List String}
    (h : fs.Arrives .throughLink (.taken l) budget loc names) :
    ∃ l', fs.Arrives .atEntry (.taken l') budget loc names := by
  induction h with
  | direct hl =>
    rcases hl.atEntry (by simp) with hl | ⟨l', hl⟩
    · exact ⟨_, .direct hl⟩
    · exact ⟨l', .direct hl⟩
  | follow hl _ ih =>
    rcases hl.atEntry (by simp) with hl | ⟨l', hl⟩
    · obtain ⟨l', harrives⟩ := ih
      exact ⟨l', .follow hl harrives⟩
    -- The link was the end of the path, so the walk stops at it.
    · exact ⟨l', .direct hl⟩

theorem walk_throughLink_of_error {fs : FileSystem} {budget : Nat} {loc : Location}
    {names : List String} {errno : Errno} (h : fs.walk .atEntry budget loc names = .error errno) :
    fs.walk .throughLink budget loc names = .error errno := by
  induction budget generalizing loc names with
  | zero =>
    rw [walk] at h ⊢
    split at h
    · rename_i hs
      rwa [advance_throughLink_of_error hs]
    · contradiction
    · rename_i hl
      rwa [((leads_of_advance hl).throughLink (by simp)).advance]
  | succ less ih =>
    rw [walk] at h ⊢
    split at h
    · rename_i hs
      rwa [advance_throughLink_of_error hs]
    · contradiction
    · rename_i hl
      rw [((leads_of_advance hl).throughLink (by simp)).advance]
      exact ih h

/-! ## Paths -/

theorem locate_eq_ok_iff {fs : FileSystem} {aim : Aim} {p : Path} {spot : Spot} :
    fs.locate aim p = .ok spot ↔ p.byteCount < pathLimit ∧
      fs.Arrives aim spot linkLimit (start fs.workingDirectory.parts.reverse p) p.parts := by
  rw [← walk_eq_ok_iff]
  unfold locate
  split
  · rename_i hlong
    simp [Nat.not_lt.mpr hlong]
  · rename_i hshort
    simp [Nat.lt_of_not_le hshort]

theorem locate_free {fs : FileSystem} {aim : Aim} {p : Path} {dir : Location} {name : String}
    (h : fs.locate aim p = .ok (.free dir name)) :
    fs.find? dir = some .directory ∧ fs.find? (name :: dir) = none :=
  (locate_eq_ok_iff.mp h).2.of_free

theorem locate_throughLink {fs : FileSystem} {p : Path} {dir : Location} {name : String}
    (h : fs.locate .atEntry p = .ok (.free dir name)) :
    fs.locate .throughLink p = .ok (.free dir name) := by
  obtain ⟨hshort, harrives⟩ := locate_eq_ok_iff.mp h
  exact locate_eq_ok_iff.mpr ⟨hshort, harrives.throughLink⟩

theorem locate_throughLink_of_error {fs : FileSystem} {p : Path} {errno : Errno}
    (h : fs.locate .atEntry p = .error errno) : fs.locate .throughLink p = .error errno := by
  unfold locate at h ⊢
  split
  · rename_i hlong
    rwa [if_pos hlong] at h
  · rename_i hshort
    rw [if_neg hshort] at h
    exact walk_throughLink_of_error h

theorem locate_atEntry {fs : FileSystem} {p : Path} {loc : Location}
    (h : fs.locate .throughLink p = .ok (.taken loc)) :
    ∃ loc', fs.locate .atEntry p = .ok (.taken loc') := by
  obtain ⟨hshort, harrives⟩ := locate_eq_ok_iff.mp h
  obtain ⟨loc', harrives⟩ := harrives.atEntry
  exact ⟨loc', locate_eq_ok_iff.mpr ⟨hshort, harrives⟩⟩

end FileSystem

end BackupLocator
