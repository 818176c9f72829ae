import BackupLocator.Proofs.Resolver.Fault

/-!
# The check of the default storage

Whether the default storage may be written to is a question of its own, with its own way to an
answer. It comes to what an operation on plain paths comes to that prefers nothing: both go by the
standing default root. So the check says beforehand whether such an operation fails because storage
is not available. It has no answer where the platform has none, or where the path of the root is too
long to look up, and then the operation fails in the same way.
-/

namespace BackupLocator

open BackupLocator.Action

variable {sel : Selector} {fs : FileSystem} {memo : Option Site} {c : Choice}

/-- It can be told whether the default storage may be written to: the platform has given the root,
or has said that there is none, and the path of the root is not too long to look up. -/
def Selector.CanTell (sel : Selector) (fs : FileSystem) (memo : Option Site) : Prop :=
  match sel.standing memo with
  | .error e => e.isUnavailable = true
  | .ok site => ¬fs.IsTooLong site.path

/-! ## Settling and choosing -/

namespace Settles

/-- Where nothing is preferred, to settle on the default root is to choose a root. -/
theorem chooses (h : Settles fs (sel.standing memo) c) : Chooses sel false fs memo c :=
  .fallback (sel.preferred_false fs) (by simp) h

theorem verdict_of_error {e : Failure} (h : Settles fs (.error e) c) :
    c.verdict = if e.isUnavailable then .ok false else .error e := by
  cases h
  rfl

/-- Where there is a default root, the verdict is what its check comes to. -/
theorem verdict_of_site {site : Site} (h : Settles fs (.ok site) c) :
    c.verdict = fs.canWrite site.path := by
  cases h with
  | unprobed hw => simp [Choice.verdict, fs.canWrite_available _ _ hw, hw]
  | writable hw => exact hw.symm
  | refused hw => exact hw.symm

/-- Settling on the default root comes to a verdict exactly where that can be told. -/
theorem exists_verdict_iff (h : Settles fs (sel.standing memo) c) :
    (∃ writable, c.verdict = .ok writable) ↔ sel.CanTell fs memo := by
  unfold Selector.CanTell
  cases hs : sel.standing memo with
  | error e =>
    rw [hs] at h
    rw [h.verdict_of_error]
    cases hunavailable : e.isUnavailable <;> simp [hunavailable]
  | ok site =>
    rw [hs] at h
    rw [h.verdict_of_site]
    exact FileSystem.exists_canWrite_iff

end Settles

theorem Choice.root_of_verdict {e : Failure} (h : c.verdict = .error e) : c.root = .error e := by
  unfold verdict at h
  split at h
  · contradiction
  · rename_i e' he
    split at h
    · contradiction
    · obtain rfl := Except.error.inj h
      exact he

/-! ## The check beside the operations -/

namespace Operation

variable {r : Resolver} {op : Operation} {s : Session}

/-- The check answers as settling on the default root comes to an answer. -/
theorem check_eq_iff (h : Settles s.files (r.selector.standing s.memo) c) {writable : Bool} :
    ((canWriteDefault.perform r).run s).1 = .ok (.flag writable) ↔ c.verdict = .ok writable := by
  rw [(does_canWriteDefault h).result_eq, Failure.map_eq_ok_iff]
  simp

/-- Where it can be told whether the default storage may be written to, the check says that it may
exactly where an operation on plain paths that prefers nothing does not fail because storage is not
available. Where it cannot be told, both fail, and for one reason. Either way they leave one memo
behind. -/
theorem check_foretells_operation {category : Option Category} (hop : op.IsDirect r category)
    (hprefers : op.prefers = false) (s : Session) :
    let check := (canWriteDefault.perform r).run s
    let outcome := (op.perform r).run s
    (r.selector.CanTell s.files s.memo →
        (check.1 = .ok (.flag true) ↔ ¬op.LacksStorage r s) ∧
          (check.1 = .ok (.flag false) ↔ op.LacksStorage r s)) ∧
      (¬r.selector.CanTell s.files s.memo →
        ∃ e, check.1 = .error e ∧ outcome.1 = .error e) ∧
      check.2.memo = outcome.2.memo := by
  intro check outcome
  obtain ⟨c, hc⟩ := exists_settles s.files (r.selector.standing s.memo)
  have hcheck := does_canWriteDefault hc
  have hchosen := hc.chooses
  rw [← hprefers] at hchosen
  have houtcome := hop.does hchosen
  refine ⟨fun htold => ?_, fun huntold => ?_, hcheck.memo_eq.trans houtcome.memo_eq.symm⟩
  · obtain ⟨writable, hverdict⟩ := hc.exists_verdict_iff.mpr htold
    have hlacks : op.LacksStorage r s ↔ c.verdict = .ok false :=
      (hop.lacksStorage_iff hchosen).trans Choice.verdict_eq_false_iff.symm
    rw [check_eq_iff hc, check_eq_iff hc, hlacks, hverdict]
    cases writable <;> simp
  · cases hverdict : c.verdict with
    | ok writable => exact absurd (hc.exists_verdict_iff.mp ⟨writable, hverdict⟩) huntold
    | error e =>
      have hroot := Choice.root_of_verdict hverdict
      refine ⟨e, ?_, ?_⟩
      · rw [hcheck.result_eq, hverdict]
        rfl
      · rw [houtcome.result_eq, hroot]
        rfl

/-- A card that is remembered has been locked. The check finds that out, as full backups do, and
both forget the card. -/
theorem check_foretells_operation_on_card :
    let r : Resolver := ⟨Card.platform 29, .unset, false⟩
    let remembered : Turn := ⟨id, r.platform, .defaultRoot⟩
    let lived := (Session.start Card.empty).after r.package false [remembered]
    let s : Session := { lived with files := Card.locked }
    let op := full none false
    s.memo = some Card.site ∧ r.selector.CanTell s.files s.memo ∧
      ((canWriteDefault.perform r).run s).1 = .ok (.flag false) ∧ op.LacksStorage r s ∧
      ((op.perform r).run s).2.memo = none := by
  intro r remembered lived s op
  have hdirect : op.IsDirect r (some .full) := rfl
  have hfound : Card.locked.isDirectory Card.path = .ok true := rfl
  have htold : r.selector.CanTell s.files s.memo :=
    FileSystem.not_isTooLong_of_isDirectory hfound
  have hcheck : ((canWriteDefault.perform r).run s).1 = .ok (.flag false) := rfl
  obtain ⟨hforetells, -, hmemo⟩ := check_foretells_operation hdirect rfl s
  exact ⟨rfl, htold, hcheck, (hforetells htold).2.mp hcheck, hmemo.symm⟩

/-! ## The check on configured storage -/

section

variable {c : Config}

/-- On configured storage the check gives an answer if and only if the path of the standing default
root is not too long to look up; that is the only failure. The answer is whether there is such a
root, and it may be written to. -/
theorem check_answers_iff (hc : c.IsWellTyped) (sorted : Bool) (s : Session) :
    let r := c.resolver sorted
    let check := ((canWriteDefault.perform r).run s).1
    ((∃ writable, check = .ok (.flag writable)) ↔
        ∀ site, r.selector.standing s.memo = .ok site → ¬s.files.IsTooLong site.path) ∧
      (∀ writable, check = .ok (.flag writable) → (writable = true ↔
        ∃ site, r.selector.standing s.memo = .ok site ∧ s.files.canWrite site.path = .ok true)) ∧
      ∀ e, check = .error e → ∃ path, e = .system ⟨.nameTooLong, path⟩ := by
  intro r check
  obtain ⟨choice, hchoice⟩ := exists_settles s.files (r.selector.standing s.memo)
  have hverdict : check = choice.verdict.map .flag := (does_canWriteDefault hchoice).result_eq
  cases hs : r.selector.standing s.memo with
  | error e =>
    obtain rfl := hc.standing_eq_error hs
    rw [hs] at hchoice
    have hcheck : check = .ok (.flag false) := by
      rw [hverdict, hchoice.verdict_of_error]
      rfl
    simp [hcheck]
  | ok site =>
    rw [hs] at hchoice
    rw [hchoice.verdict_of_site] at hverdict
    cases hw : s.files.canWrite site.path with
    | error e =>
      obtain ⟨hlong, rfl⟩ := FileSystem.canWrite_eq_error_iff.mp hw
      simp [hverdict, hw, Except.map, hlong]
    | ok writable =>
      have hshort := FileSystem.not_isTooLong_of_canWrite hw
      simp [hverdict, hw, Except.map, hshort]

/-- On a card that is locked the check answers, and not that the card may be written to. -/
theorem check_answers_on_card :
    let c := Card.config PackageId.production
    let check := ((canWriteDefault.perform (c.resolver false)).run (.start Card.locked)).1
    c.IsWellTyped ∧ (∃ writable, check = .ok (.flag writable)) ∧ check ≠ .ok (.flag true) := by
  intro c check
  have htyped := Card.config_isWellTyped PackageId.production
  obtain ⟨hanswers, hflag, -⟩ := check_answers_iff htyped false (.start Card.locked)
  have hlocked : Card.locked.canWrite Card.path = .ok false := rfl
  refine ⟨htyped, hanswers.mpr fun site hs => ?_, fun hcheck => ?_⟩
  · obtain rfl := Except.ok.inj hs
    exact FileSystem.not_isTooLong_of_canWrite hlocked
  · obtain ⟨site, hs, hw⟩ := (hflag true hcheck).mp rfl
    obtain rfl := Except.ok.inj hs
    have hsame : false = true := Except.ok.inj (hlocked.symm.trans hw)
    contradiction

/-- A path that is too long has been configured. The check does not answer, though the configuration
is well typed. -/
theorem check_fails_on_long_path :
    let c : Config := { Config.default with storagePlace := .path longPath }
    c.IsWellTyped ∧
      ((canWriteDefault.perform (c.resolver false)).run (.start Card.empty)).1 =
        .error (.system ⟨.nameTooLong, longPath⟩) := by
  intro c
  have htyped : c.IsWellTyped :=
    { Config.default_isWellTyped with
      storagePlace := by
        intro v h
        contradiction }
  refine ⟨htyped, ?_⟩
  let site : Site := ⟨longPath, .null, .str Platform.Local.primaryDescription⟩
  have hw := FileSystem.canWrite_eq_error_iff.mpr ⟨longPath_isTooLong Card.empty, rfl⟩
  have hchoice : Settles Card.empty (.ok site) ⟨.error _, some site, [longPath]⟩ := .unprobed hw
  exact (does_canWriteDefault (r := c.resolver false) (s := .start Card.empty) hchoice).result_eq

end

end Operation

end BackupLocator
