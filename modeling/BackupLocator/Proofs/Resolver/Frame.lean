import BackupLocator.Proofs.Resolver.Ending

/-!
# What an operation leaves as it was

An operation that only reads, or that fails before it makes a directory, leaves the files as they
were. One that has begun to make its directory keeps everything that there was, and adds nothing
but directories on the way to the one that it has settled on. That holds too where the attempt
stops halfway.
-/

namespace BackupLocator

/-- Whether a failure says that a backup directory could not be made. -/
def Failure.isCreation : Failure → Bool
  | .notCreated .. => true
  | _ => false

namespace Operation

/-- Each new entry is a place on the way to a directory that an operation has settled on. -/
def AddsOnTheWay (r : Resolver) (op : Operation) (s : Session) (fs' : FileSystem) : Prop :=
  ∀ loc, s.files.find? loc = none → fs'.find? loc ≠ none →
    ∃ d, op.Targets r s d ∧ Found s.files r (op.branch? r) op.handle? d ∧
      ∃ q : Path, q.IsAtOrAbove d.path ∧ fs'.locate .throughLink q = .ok (.taken loc)

variable {r : Resolver} {op : Operation} {s s' : Session}

theorem AddsOnTheWay.of_growth {d : ResolvedDirectory} {fs' : FileSystem}
    (htarget : op.Targets r s d) (h : FileSystem.Growth s.files fs' d.path) :
    op.AddsOnTheWay r s fs' := by
  intro loc hnew hthere
  obtain ⟨q, hq, hl⟩ := h.named hnew hthere
  exact ⟨d, htarget, htarget.found, q, hq, hl⟩

theorem AddsOnTheWay.refl : op.AddsOnTheWay r s s.files := by
  intro loc hnew hthere
  exact absurd hnew hthere

/-- A failure to make a directory that is not reported as such has changed nothing. -/
theorem files_of_stopped {path : Path} {e : Failure}
    (hmake : s.files.makeDirectory path true true = (.error e, s'.files))
    (he : (e.whileMaking path).isCreation = false) : s'.files = s.files := by
  have herror := FileSystem.makeDirectory_error (congrArg Prod.fst hmake)
  rcases herror with ⟨cause, rfl⟩ | ⟨rfl, hsame⟩
  -- What the system refuses is reported as a failure to make the directory.
  · contradiction
  · rwa [hmake] at hsame

variable {out : Except Failure Answer × Session}

/-- What there was stays, and what is new is a directory on the way to the target. -/
theorem Ends.adds (h : op.Ends r s out) :
    s.files.Extension out.2.files ∧ op.AddsOnTheWay r s out.2.files := by
  have hmaking {d : ResolvedDirectory} {x : Except Failure Unit} {fs' : FileSystem}
      (htarget : op.Targets r s d) (hmake : s.files.makeDirectory d.path true true = (x, fs')) :
      s.files.Extension fs' ∧ op.AddsOnTheWay r s fs' := by
    have hgrowth := FileSystem.makeDirectory_growth s.files d.path true true
    rw [hmake] at hgrowth
    exact ⟨hgrowth.toExtension, .of_growth htarget hgrowth⟩
  cases h with
  | read _ hsame | lost _ _ hsame =>
    rw [hsame]
    exact ⟨.refl s.files, .refl⟩
  | stopped htarget hmake | made htarget hmake => exact hmaking htarget hmake

theorem Ends.unchanged_of_isRead (h : op.Ends r s out) (hop : op.isRead = true) :
    out.2.files = s.files := by
  cases h with
  | read _ hsame | lost _ _ hsame => exact hsame
  | stopped htarget _ | made htarget _ => exact absurd hop htarget.not_isRead

theorem Ends.unchanged_of_refusal (h : op.Ends r s out) {e : Failure} (he : out.1 = .error e)
    (hcreation : e.isCreation = false) : out.2.files = s.files := by
  cases h with
  | read _ hsame | lost _ _ hsame => exact hsame
  | stopped _ hmake =>
    obtain rfl := Except.error.inj he
    exact files_of_stopped hmake hcreation
  | made => contradiction

/-- The part of an operation in the files: a read or a refusal changes nothing, and whatever
happens, what there was stays and what is new is a directory on the way to the target. -/
theorem files_after_operation {result : Except Failure Answer}
    (h : (op.perform r).run s = (result, s')) :
    (op.isRead = true ∨ (∃ e, result = .error e ∧ e.isCreation = false) → s'.files = s.files) ∧
      s.files.Extension s'.files ∧ op.AddsOnTheWay r s s'.files := by
  have hends := perform_ends r op s
  rw [h] at hends
  refine ⟨?_, hends.adds⟩
  rintro (hop | ⟨e, he, hcreation⟩)
  · exact hends.unchanged_of_isRead hop
  · exact hends.unchanged_of_refusal he hcreation

/-- On a card that has no room below the application root only that is made. -/
theorem files_after_operation_on_card :
    ∃ cause s', (Operation.legacy.perform Card.resolver).run (.start Card.crowded) =
        (.error (.notCreated Card.backups.path cause), s') ∧
      s'.files.find? ["Signal", "sdcard"] = some .directory ∧
      Card.crowded.Extension s'.files := by
  obtain ⟨cause, s', h, hmade⟩ : ∃ cause s',
      (Operation.legacy.perform Card.resolver).run (.start Card.crowded) =
          (.error (.notCreated Card.backups.path cause), s') ∧
        s'.files.find? ["Signal", "sdcard"] = some .directory := ⟨_, _, rfl, rfl⟩
  exact ⟨cause, s', h, hmade, (files_after_operation h).2.1⟩

end Operation

end BackupLocator
