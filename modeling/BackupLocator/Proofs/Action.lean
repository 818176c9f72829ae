import BackupLocator.Session

/-!
# Laws of actions

Actions form a lawful monad, and a run of two actions in a row is taken apart into a run of each.
What a single step does is said once here. Two actions are alike for a relation between sessions
if, run on related sessions, they give one result and lead to related sessions again. That is
proved step by step for any relation. What one action keeps is the case of a session beside itself.
-/

namespace BackupLocator

namespace Action

variable {α β : Type}

/-! ## Two actions in a row -/

theorem run_bind (x : Action α) (f : α → Action β) (s : Session) :
    (x >>= f).run s = match x.run s with
      | (.ok a, s') => (f a).run s'
      | (.error e, s') => (.error e, s') := rfl

instance : LawfulMonad Action :=
  .mk' Action
    (fun x => by
      funext s
      change (x >>= pure).run s = x.run s
      rw [run_bind]
      split <;> simp_all)
    (fun _ _ => rfl)
    (fun x f g => by
      funext s
      change (x >>= f >>= g).run s = (x >>= fun a => f a >>= g).run s
      simp only [run_bind]
      rcases x.run s with ⟨_ | _, _⟩ <;> rfl)

theorem run_bind_eq_ok_iff {x : Action α} {f : α → Action β} {s s'' : Session} {b : β} :
    (x >>= f).run s = (.ok b, s'') ↔
      ∃ a s', x.run s = (.ok a, s') ∧ (f a).run s' = (.ok b, s'') := by
  rw [run_bind]
  constructor
  · intro h
    split at h
    · rename_i a s' hx
      exact ⟨a, s', hx, h⟩
    · simp at h
  · rintro ⟨a, s', hx, hf⟩
    rw [hx]
    exact hf

theorem run_ofExcept (r : Except Failure α) (s : Session) : (ofExcept r).run s = (r, s) := by
  cases r <;> rfl

/-! ## Single steps

What a step does to the files and to the memo; what it writes to the journal matters to none of
its callers. -/

theorem run_noteFailure (e : Failure) (s : Session) :
    ∃ journal, (noteFailure e).run s = (.ok (), { s with journal }) := by
  unfold noteFailure
  split
  · split
    · exact ⟨_, rfl⟩
    · exact ⟨s.journal, rfl⟩
  · exact ⟨s.journal, rfl⟩

theorem run_askHandlePath (p : Platform) (handle : String) (s : Session) :
    ∃ journal, (askHandlePath p handle).run s =
      (p.handlePath s.files handle, { s with journal }) := by
  unfold askHandlePath run
  dsimp only
  cases p.handlePath s.files handle with
  | ok path => exact ⟨_, rfl⟩
  | error e =>
    let asked := { s with journal := .handlePath handle :: s.journal }
    obtain ⟨journal, hnote⟩ := run_noteFailure e asked
    exact ⟨journal, run_bind_ok hnote⟩

theorem run_canWrite (path : Path) (s : Session) :
    ∃ journal, (canWrite path).run s = (s.files.canWrite path, { s with journal }) := by
  unfold canWrite run
  dsimp only
  cases s.files.canWrite path with
  | ok writable => exact ⟨_, rfl⟩
  | error e => exact ⟨s.journal, rfl⟩

theorem run_makeDirectory (path : Path) (parents existOk : Bool) (s : Session) :
    ∃ journal, (makeDirectory path parents existOk).run s =
      ((s.files.makeDirectory path parents existOk).1,
        ⟨(s.files.makeDirectory path parents existOk).2, s.memo, journal⟩) := ⟨_, rfl⟩

/-! ## Outcomes as values -/

/-- The action that does what another one does and never fails: the outcome is its value. -/
def attempt (x : Action α) : Action (Except Failure α) := fun s => (.ok (x.run s).1, (x.run s).2)

theorem run_attempt (x : Action α) (s : Session) :
    x.attempt.run s = (.ok (x.run s).1, (x.run s).2) := rfl

/-! ## Two runs side by side -/

/-- Two actions give one result on any two sessions that stand in a relation, and lead to sessions
that stand in it again. -/
def Alike (R : Session → Session → Prop) (x y : Action α) : Prop :=
  ∀ s t, R s t → (x.run s).1 = (y.run t).1 ∧ R (x.run s).2 (y.run t).2

namespace Alike

variable {R : Session → Session → Prop}

theorem pure (a : α) : Alike R (pure a : Action α) (pure a) := fun _ _ h => ⟨rfl, h⟩

theorem fail (e : Failure) : Alike R (fail e : Action α) (fail e) := fun _ _ h => ⟨rfl, h⟩

theorem ofExcept (r : Except Failure α) : Alike R (ofExcept r) (ofExcept r) := by
  intro s t h
  rw [run_ofExcept, run_ofExcept]
  exact ⟨rfl, h⟩

theorem bind {x y : Action α} {f g : α → Action β} (hx : Alike R x y)
    (hf : ∀ a, Alike R (f a) (g a)) : Alike R (x >>= f) (y >>= g) := by
  intro s t h
  obtain ⟨hr, hR⟩ := hx s t h
  simp only [run_bind]
  rcases hs : x.run s with ⟨r, s'⟩
  rcases ht : y.run t with ⟨r', t'⟩
  rw [hs, ht] at hr hR
  obtain rfl : r = r' := hr
  cases r with
  | ok a => exact hf a s' t' hR
  | error e => exact ⟨rfl, hR⟩

/-- On equal sessions an action is like itself. -/
theorem refl (x : Action α) : Alike Eq x x := by
  rintro s _ rfl
  exact ⟨rfl, rfl⟩

theorem attempt {x y : Action α} (h : Alike R x y) : Alike R x.attempt y.attempt := by
  intro s t hst
  obtain ⟨hr, hR⟩ := h s t hst
  exact ⟨congrArg Except.ok hr, hR⟩

end Alike

/-! ## What one run keeps -/

/-- A session beside itself, where it has a property. -/
def Beside (P : Session → Prop) (s t : Session) : Prop := s = t ∧ P s

theorem alike_beside_iff {P : Session → Prop} {x : Action α} :
    Alike (Beside P) x x ↔ ∀ s, P s → P (x.run s).2 := by
  constructor
  · intro h s hs
    exact (h s s ⟨rfl, hs⟩).2.2
  · rintro h s _ ⟨rfl, hs⟩
    exact ⟨rfl, rfl, h s hs⟩

end Action

end BackupLocator
