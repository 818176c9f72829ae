import BackupLocator.Failure

/-!
# How computations fail

A computation takes its steps one after another and fails where the first of them does. So what is
true of the failures of each step is true of those of the whole.
-/

namespace BackupLocator.Failure

section

variable {α β : Type} {x : Except Failure α} {a : α} {b : β}

theorem ok_bind (a : α) (f : α → Except Failure β) : (.ok a >>= f) = f a := rfl

theorem bind_eq_ok_iff {f : α → Except Failure β} :
    x.bind f = .ok b ↔ ∃ a, x = .ok a ∧ f a = .ok b := by
  cases x <;> simp [Except.bind]

theorem map_eq_ok_iff {f : α → β} : x.map f = .ok b ↔ ∃ a, x = .ok a ∧ f a = b := by
  cases x <;> simp [Except.map]

theorem forM_eq_ok {f : α → Except Failure PUnit} {l : List α} (h : ∀ a ∈ l, f a = .ok ⟨⟩) :
    l.forM f = .ok ⟨⟩ := by
  induction l with
  | nil => rfl
  | cons a l ih =>
    rw [List.forall_mem_cons] at h
    rw [List.forM, h.1]
    exact ih h.2

/-- To say a failure in another way changes no success. -/
theorem mapError_eq_ok_iff {ε : Type} {g : Failure → ε} : x.mapError g = .ok a ↔ x = .ok a := by
  cases x with
  | error e => exact iff_of_false (by rintro ⟨⟩) (by rintro ⟨⟩)
  | ok a' =>
    constructor
    · rintro ⟨⟩
      rfl
    · rintro ⟨⟩
      rfl

theorem mapError_eq_error_iff {ε : Type} {g : Failure → ε} {e' : ε} :
    x.mapError g = .error e' ↔ ∃ e, x = .error e ∧ g e = e' := by
  cases x with
  | error e =>
    constructor
    · rintro ⟨⟩
      exact ⟨e, rfl, rfl⟩
    · rintro ⟨_, ⟨⟩, rfl⟩
      rfl
  | ok a => exact iff_of_false (by rintro ⟨⟩) (by rintro ⟨_, ⟨⟩, _⟩)

end

/-- Where a computation fails, its failure has a property. -/
def Only {α : Type} (P : Failure → Prop) (x : Except Failure α) : Prop :=
  ∀ e, x = .error e → P e

namespace Only

variable {α β : Type} {P : Failure → Prop}

theorem ok (a : α) : Only P (.ok a) := by
  intro e h
  contradiction

theorem error {e : Failure} (h : P e) : Only P (.error e : Except Failure α) := by
  rintro _ ⟨⟩
  exact h

theorem bind {x : Except Failure α} {f : α → Except Failure β} (hx : Only P x)
    (hf : ∀ a, Only P (f a)) : Only P (x >>= f) := by
  intro e h
  cases x with
  | error e' =>
    obtain rfl : e' = e := Except.error.inj h
    exact hx e' rfl
  | ok a => exact hf a e h

theorem map {x : Except Failure α} (hx : Only P x) (f : α → β) : Only P (x.map f) := by
  cases x with
  | error e => exact .error (hx e rfl)
  | ok a => exact .ok (f a)

theorem mapM {f : α → Except Failure β} (hf : ∀ a, Only P (f a)) (l : List α) :
    Only P (l.mapM f) := by
  induction l with
  | nil => exact .ok []
  | cons a l ih =>
    rw [List.mapM_cons]
    exact .bind (hf a) fun b => .bind ih fun bs => .ok (b :: bs)

end Only

/-- Where a computation fails, that does not mean that storage is not available. -/
abbrev Available {α : Type} (x : Except Failure α) : Prop :=
  Only (fun e => e.isUnavailable = false) x

end BackupLocator.Failure
