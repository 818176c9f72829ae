import Mathlib.Logic.Relation
import BackupLocator.Proofs.Resolver.Memo

/-!
# Where a memo comes from

The life of a session is a sequence of elementary steps: the files change, an event is recorded, or
the default root is remembered or forgotten. The platform is asked for its default root only where
nothing is remembered, and only its latest answer is ever remembered. So at every moment the memo is
empty or can be traced to that answer, and a root gives way to another one only by being forgotten.
-/

namespace BackupLocator

open BackupLocator.Action

/-- The answer about the default root that an event holds, if it is one in which the platform was
asked for it. -/
def Event.rootAnswer? : Event → Option (Except Failure (Option StorageRoot))
  | .defaultRoot answer => some answer
  | _ => none

namespace Session

/-- The latest answer of the platform about its default root. -/
def latestAnswer? (s : Session) : Option (Except Failure (Option StorageRoot)) :=
  s.journal.findSome? Event.rootAnswer?

/-- What is remembered is the root of the latest answer. -/
def Traced (s : Session) : Prop :=
  ∀ site, s.memo = some site → s.latestAnswer? = some (.ok (some site.root))

/-! ## Elementary steps -/

/-- What can happen to a session at once: each rule is one way. -/
inductive Step : Session → Session → Prop
  | changed (s fs) : Step s { s with files := fs }
  | recorded (s) {event} : event.rootAnswer? = none →
      Step s { s with journal := event :: s.journal }
  | asked (s answer) : s.memo = none →
      Step s { s with journal := .defaultRoot answer :: s.journal }
  | remembered (s) {site} : s.memo = none → s.latestAnswer? = some (.ok (some site.root)) →
      Step s { s with memo := some site }
  | forgotten (s) : Step s { s with memo := none }

/-- One session leads to another by any number of steps. -/
abbrev Reaches : Session → Session → Prop := Relation.ReflTransGen Step

variable {s t : Session}

theorem traced_start (fs : FileSystem) : (start fs).Traced := by
  intro site h
  contradiction

theorem Step.traced (h : s.Step t) (hs : s.Traced) : t.Traced := by
  intro site hmemo
  cases h with
  | changed => exact hs site hmemo
  | recorded hother =>
    rw [latestAnswer?, List.findSome?_cons_of_isNone (by rw [hother]; rfl)]
    exact hs site hmemo
  | asked _ hnone =>
    -- Nothing is remembered while the platform is asked.
    rw [hnone] at hmemo
    contradiction
  | remembered _ hlatest =>
    obtain rfl := Option.some.inj hmemo
    exact hlatest
  | forgotten => contradiction

/-- A root that is remembered stays so or is forgotten. -/
theorem Step.memo_eq (h : s.Step t) {site : Site} (hmemo : s.memo = some site) :
    t.memo = some site ∨ t.memo = none := by
  cases h with
  | changed | recorded => exact .inl hmemo
  | asked _ hnone | remembered hnone =>
    rw [hnone] at hmemo
    contradiction
  | forgotten => exact .inr rfl

theorem Reaches.traced (h : s.Reaches t) (hs : s.Traced) : t.Traced := by
  induction h with
  | refl => exact hs
  | tail _ hstep ih => exact hstep.traced ih

/-! ## What a resolver does, step by step -/

theorem Reaches.record {event : Event} (h : s.Reaches t) (hevent : event.asksForRoots = false) :
    s.Reaches { t with journal := event :: t.journal } := by
  have hother : event.rootAnswer? = none := by cases event <;> first | rfl | contradiction
  exact h.tail (.recorded t hother)

end Session

theorem quietSteps_reaches (s₀ : Session) : QuietSteps (Beside s₀.Reaches) :=
  .of_recorded fun _ _ hevent h => h.record hevent

theorem sameHandles_reaches (s₀ : Session) (r : Resolver) :
    SameHandles (Beside s₀.Reaches) r r := .of_recorded (fun _ _ hevent h => h.record hevent) r

theorem commonSteps_reaches (s₀ : Session) : CommonSteps (Beside s₀.Reaches) where
  note := (quietSteps_reaches s₀).note
  invalidate := alike_beside_iff.mpr fun s h => by
    rcases s with ⟨files, _ | site, journal⟩
    · exact h
    · exact (h.record rfl).tail (.forgotten _)
  isDirectory _ := alike_beside_iff.mpr fun _ h => h
  canWrite := (quietSteps_reaches s₀).canWrite

theorem sameAnswers_reaches (s₀ : Session) (r : Resolver) :
    SameAnswers (Beside s₀.Reaches) r r where
  package := rfl
  sorted := rfl
  version := rfl
  defaultRoot := alike_beside_iff.mpr fun s h => by
    cases hmemo : s.memo with
    | some site => rwa [r.selector.run_defaultRoot_of_remembered hmemo]
    | none =>
      have hasked : s₀.Reaches _ := h.tail (.asked s r.platform.defaultRoot hmemo)
      rcases r with ⟨⟨version, answer, externalRoots, description, handlePath⟩, package, sorted⟩
      rcases s with ⟨files, _ | site, journal⟩
      · rcases answer with e | _ | ⟨_ | path, handle, description⟩
        · exact hasked
        · exact hasked.record rfl
        · exact hasked.record rfl
        · exact hasked.tail (.remembered _ rfl rfl)
      · contradiction
  externalRoots := alike_beside_iff.mpr fun s h => h.tail (.recorded s rfl)
  description := (sameHandles_reaches s₀ r).description
  handlePath := (sameHandles_reaches s₀ r).handlePath

/-- A directory is made: that is noted, and the files change. -/
theorem alike_makeDirectory_reaches (s₀ : Session) (path : Path) :
    Alike (Beside s₀.Reaches) (makeDirectory path true true) (makeDirectory path true true) :=
  alike_beside_iff.mpr fun s h => by
    have hnoted := alike_beside_iff.mp ((quietSteps_reaches s₀).note .debug .store
      ("Creating directory " ++ path.text)) s h
    exact hnoted.tail (.changed _ (s.files.makeDirectory path true true).2)

/-! ## Turns -/

namespace Session

variable (package : PackageId) (sorted : Bool)

/-- A turn is a sequence of elementary steps. -/
theorem reaches_take (turn : Turn) (s : Session) : s.Reaches (turn.take package sorted s).2 := by
  have hperform := (commonSteps_reaches s).perform
    (sameAnswers_reaches s ⟨turn.platform, package, sorted⟩) (alike_makeDirectory_reaches s)
    turn.operation
  exact alike_beside_iff.mp hperform _ (.single (.changed s (turn.change s.files)))

/-- So is a life. -/
theorem reaches_after (s : Session) (turns : List Turn) :
    s.Reaches (s.after package sorted turns) :=
  after_keeps package sorted (fun turn _ _ h => h.trans (reaches_take package sorted turn _))
    Relation.ReflTransGen.refl

end Session

end BackupLocator
