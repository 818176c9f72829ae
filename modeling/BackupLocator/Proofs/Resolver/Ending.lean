import BackupLocator.Proofs.Action.Effect
import BackupLocator.Proofs.FileSystem.Creation
import BackupLocator.Proofs.Resolver.Found

/-!
# How an operation ends

An operation that only reads leaves the files alone. Another one settles on a directory, or fails
before it has changed anything. Then the directory is made, and the file system decides whether
the operation succeeds.
-/

namespace BackupLocator

/-- A failure to make a directory, as a resolver reports it. -/
def Failure.whileMaking (path : Path) : Failure → Failure
  | .system e => .notCreated path e
  | e => e

namespace Resolver

theorem does_creationFailure (path : Path) (e : Failure) (s : Session) :
    (creationFailure path e).Does s (.error (e.whileMaking path)) s.files s.memo [] := by
  unfold creationFailure
  split
  · refine (Action.Does.note _ _ _ s).bind_unchecked fun journal => ?_
    exact .fail _ ⟨s.files, s.memo, journal⟩
  · rename_i hsys
    have he : e.whileMaking path = e := by
      cases e with
      | system cause => exact absurd rfl (hsys cause)
      | _ => rfl
    rw [he]
    exact .fail e s

/-- A directory is made as the file system makes it, and nothing is checked or forgotten. -/
theorem does_ensureDirectory (path : Path) (s : Session) :
    (ensureDirectory path).Does s
      ((s.files.makeDirectory path true true).1.mapError (Failure.whileMaking path))
      (s.files.makeDirectory path true true).2 s.memo [] := by
  rw [ensureDirectory_eq]
  refine (Action.Does.makeDirectory path true true s).attempt.bind_unchecked fun journal => ?_
  cases (s.files.makeDirectory path true true).1 with
  | ok => exact .pure () _
  | error e => exact does_creationFailure path e _

/-- What comes of making a planned directory in some files. -/
def madeIn (fs : FileSystem) (d : ResolvedDirectory) : Except Failure ResolvedDirectory :=
  ((fs.makeDirectory d.path true true).1.mapError (Failure.whileMaking d.path)).map fun _ => d

theorem madeIn_eq_ok_iff {fs : FileSystem} {d d' : ResolvedDirectory} :
    madeIn fs d = .ok d' ↔ d = d' ∧ (fs.makeDirectory d.path true true).1 = .ok () := by
  unfold madeIn
  rcases (fs.makeDirectory d.path true true).1 with e | ⟨⟩
  · refine iff_of_false (fun h => ?_) fun h => ?_
    · cases h
    · cases h.2
  · exact ⟨fun h => ⟨Except.ok.inj h, rfl⟩, fun h => congrArg Except.ok h.1⟩

theorem does_establish (d : ResolvedDirectory) (s : Session) :
    (establish d).Does s (madeIn s.files d) (s.files.makeDirectory d.path true true).2 s.memo
      [] := by
  have hmade := (does_ensureDirectory d.path s).map fun _ => d
  rwa [map_eq_pure_bind] at hmade

end Resolver

namespace Operation

/-- An operation settles on a directory, which may be still to be made. -/
def Targets (r : Resolver) (op : Operation) (s : Session) (d : ResolvedDirectory) : Prop :=
  ∃ plan s', op.plan? r = some plan ∧ plan.run s = (.ok d, s')

theorem Targets.found {r : Resolver} {op : Operation} {s : Session} {d : ResolvedDirectory}
    (h : op.Targets r s d) : Found s.files r (op.branch? r) op.handle? d := by
  obtain ⟨plan, s', hplan, hrun⟩ := h
  apply (finds_plan s.files r hplan s rfl).2
  rw [hrun]

theorem Targets.not_isRead {r : Resolver} {op : Operation} {s : Session} {d : ResolvedDirectory}
    (h : op.Targets r s d) : ¬op.isRead = true := by
  obtain ⟨plan, s', hplan, -⟩ := h
  rw [← plan?_eq_none_iff, hplan]
  exact Option.some_ne_none plan

/-- How an operation ends: each rule is one way. -/
inductive Ends (r : Resolver) (op : Operation) (s : Session) :
    Except Failure Answer × Session → Prop
  | read {out} : op.isRead = true → out.2.files = s.files → Ends r op s out
  | lost {plan e s'} : op.plan? r = some plan → plan.run s = (.error e, s') →
      s'.files = s.files → Ends r op s (.error e, s')
  | stopped {d e s'} : op.Targets r s d →
      s.files.makeDirectory d.path true true = (.error e, s'.files) →
      Ends r op s (.error (e.whileMaking d.path), s')
  | made {d s'} : op.Targets r s d →
      s.files.makeDirectory d.path true true = (.ok (), s'.files) →
      Ends r op s (.ok (.directory d), s')

theorem perform_ends (r : Resolver) (op : Operation) (s : Session) :
    Ends r op s ((op.perform r).run s) := by
  cases hop : op.isRead with
  | true =>
    have hread := (commonSteps_has s.files).read (sameAnswers_has s.files r) hop
    exact .read hop (Action.alike_beside_iff.mp hread s rfl)
  | false =>
    obtain ⟨plan, hplan⟩ := exists_plan r hop
    have hfiles := (finds_plan s.files r hplan s rfl).1
    rw [perform_of_plan hplan, map_eq_pure_bind, bind_assoc]
    rcases hrun : plan.run s with ⟨e | d, s₁⟩
    · rw [hrun] at hfiles
      rw [Action.run_bind_error hrun]
      exact .lost hplan hrun hfiles
    · rw [hrun] at hfiles
      rw [Action.run_bind_ok hrun, ← map_eq_pure_bind]
      have htarget : op.Targets r s d := ⟨plan, s₁, hplan, hrun⟩
      -- The plan has left the files alone: what is made is made in those of the beginning.
      have hmaking := (Resolver.does_establish d s₁).map Answer.directory
      rw [show s₁.files = s.files from hfiles, Resolver.madeIn] at hmaking
      have hresult := hmaking.result_eq
      have hmade := hmaking.files_eq
      rcases hs : (Answer.directory <$> Resolver.establish d).run s₁ with ⟨result, s₂⟩
      rw [hs] at hresult hmade
      obtain rfl := hresult
      rcases hm : s.files.makeDirectory d.path true true with ⟨e | ⟨⟩, files⟩
      · rw [hm] at hmade
        exact .stopped htarget (by rw [hm, hmade])
      · rw [hm] at hmade
        exact .made htarget (by rw [hm, hmade])

end Operation

/-! ## A card

A small world in which operations can be carried out. -/

namespace Card

def path : Path := .ofText "/sdcard"

def site : Site := ⟨path, .null, .str "Internal"⟩

/-- A platform whose default storage is a card. Every handle stands for the card too. -/
def platform (version : Int) : Platform where
  version := .whole version
  defaultRoot := .ok (some site.root)
  externalRoots _ := .ok []
  description _ := .ok .null
  handlePath _ _ := .ok path

def resolver : Resolver := ⟨platform 29, .named "org.thoughtcrime.securesms.staging", false⟩

/-- A card that holds nothing. -/
def empty : FileSystem := { FileSystem.empty with entries := [(["sdcard"], .directory)] }

/-- A card on which the older backups of one variant may not be written to. -/
def guarded : FileSystem where
  entries := [(["sdcard"], .directory), (["Signal", "sdcard"], .directory),
    (["Backups", "Signal", "sdcard"], .directory),
    (["staging", "Backups", "Signal", "sdcard"], .directory)]
  workingDirectory := .ofAnchor .root
  denied := [.ofText "/sdcard/Signal/Backups/staging"]
  full := []

/-- A card that has no room below the application root. -/
def crowded : FileSystem := { empty with full := [.ofText "/sdcard/Signal/Backups"] }

/-- A card that may not be written to. -/
def locked : FileSystem := { empty with denied := [path] }

/-- The directory of older backups of that variant. -/
def backups : ResolvedDirectory :=
  ⟨site, .ofText "/sdcard/Signal/Backups/staging", some .legacy, .legacy⟩

theorem legacy_gives_backups :
    ∃ s', (Operation.legacy.perform resolver).run (.start empty) =
      (.ok (.directory backups), s') :=
  ⟨_, rfl⟩

end Card

end BackupLocator
