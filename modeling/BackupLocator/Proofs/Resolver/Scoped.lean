import BackupLocator.Proofs.Resolver.Direct

/-!
# Operations by a handle

Where storage is reached by handles, an operation finds its directory by the handle that it is given
and by nothing else. The default root is not asked for and not forgotten, whatever is checked, and
what is preferred does not matter.
-/

namespace BackupLocator

open BackupLocator.Action

/-! ## Steps that keep a session's memo, and steps that are the same -/

/-- Whether a session remembers a certain root, or none. -/
def Session.Remembers (memo : Option Site) (s : Session) : Prop := s.memo = memo

theorem quietSteps_remembers (memo : Option Site) :
    QuietSteps (Beside (Session.Remembers memo)) := .of_recorded fun _ _ _ h => h

theorem sameHandles_remembers (memo : Option Site) (r : Resolver) :
    SameHandles (Beside (Session.Remembers memo)) r r := .of_recorded (fun _ _ _ h => h) r

theorem quietSteps_eq : QuietSteps Eq := ⟨fun _ _ _ => .refl _, fun _ => .refl _⟩

theorem sameHandles_eq (r : Resolver) : SameHandles Eq r r :=
  ⟨rfl, rfl, fun _ => .refl _, fun _ => .refl _⟩

/-! ## Versions that are reached by handles -/

/-- A version is a number below another one. -/
def Version.IsBelow (m : Int) : Version → Prop
  | .whole n => n < m
  | .real x => x.compareInt m = some .lt
  | .incomparable => False

instance (m : Int) : (v : Version) → Decidable (v.IsBelow m)
  | .whole n => inferInstanceAs (Decidable (n < m))
  | .real x => inferInstanceAs (Decidable (x.compareInt m = some .lt))
  | .incomparable => inferInstanceAs (Decidable False)

theorem StorageModel.ofVersion_eq_legacy_iff {v : Version} :
    ofVersion v = .ok .legacy ↔ v.IsBelow Version.firstScoped := by
  cases v <;>
    simp [ofVersion, Version.compareWith, Except.map, Version.IsBelow, Std.compare_eq_lt]

theorem StorageModel.ofVersion_of_lt_firstScoped {n : Int} (h : n < Version.firstScoped) :
    ofVersion (.whole n) = .ok .legacy :=
  ofVersion_eq_legacy_iff.mpr h

theorem StorageModel.ofVersion_of_firstScoped_le {n : Int} (h : Version.firstScoped ≤ n) :
    ofVersion (.whole n) = .ok .scoped := by
  have hcompare : compare n Version.firstScoped ≠ .lt := by
    rw [ne_eq, Std.compare_eq_lt]
    exact Int.not_lt.mpr h
  rw [ofVersion, Version.compareWith, Except.map]
  simp [hcompare]

namespace Operation

variable {r : Resolver} {op : Operation}

/-- Full and plaintext backups are found by the storage model of the version. -/
theorem branch?_of_ofVersion {model : StorageModel}
    (h : StorageModel.ofVersion r.platform.version = .ok model) (handle : Option String)
    (prefer : Bool) :
    (full handle prefer).branch? r = some (some .full, model) ∧
      (plaintext handle prefer).branch? r = some (some .plaintext, model) := by
  have hmodel : (StorageModel.ofVersion r.platform.version).toOption = some model := by
    rw [h]
    rfl
  exact ⟨Resolver.branchTo?_eq_some_iff.mpr ⟨model, hmodel, rfl⟩,
    Resolver.branchTo?_eq_some_iff.mpr ⟨model, hmodel, rfl⟩⟩

/-- From the first such version on, full and plaintext backups are found by a handle. -/
theorem isScoped_of_firstScoped_le {n : Int} (h : Version.firstScoped ≤ n)
    (hversion : r.platform.version = .whole n) (handle : Option String) (prefer : Bool) :
    (full handle prefer).IsScoped r ∧ (plaintext handle prefer).IsScoped r := by
  have hmodel := hversion ▸ StorageModel.ofVersion_of_firstScoped_le h
  obtain ⟨hfull, hplaintext⟩ := branch?_of_ofVersion hmodel handle prefer
  exact ⟨⟨_, hfull⟩, ⟨_, hplaintext⟩⟩

theorem IsDirect.not_isScoped {category : Option Category} (h : op.IsDirect r category) :
    ¬op.IsScoped r := by
  rintro ⟨category', hscoped⟩
  have hmodel : StorageModel.legacy = .scoped :=
    congrArg Prod.snd (Option.some.inj (h.symm.trans hscoped))
  contradiction

/-- By a handle there is one plan for a category, that of the storage model. -/
theorem IsScoped.plan (h : op.IsScoped r) :
    StorageModel.ofVersion r.platform.version = .ok .scoped ∧
      ∃ category, op.branch? r = some (some category, .scoped) ∧ category ≠ .legacy ∧
        op.plan? r = some (r.categoryPlan category op.handle? op.prefers) := by
  obtain ⟨category?, hbranch⟩ := h
  cases category? with
  | none =>
    obtain ⟨-, hmodel⟩ := plan?_of_no_category hbranch
    contradiction
  | some category =>
    obtain ⟨hplan, hmodel, -⟩ := plan?_of_branch hbranch
    have hcategory : category ≠ .legacy := by
      rintro rfl
      simp [Resolver.modelOf?] at hmodel
    refine ⟨Resolver.ofVersion_of_modelOf? hcategory hmodel, category, hbranch, hcategory, ?_⟩
    rw [hplan, Resolver.planTo_eq hcategory]

/-- Two operations that take one branch with one handle do the same, whatever each prefers. -/
theorem IsScoped.perform_eq {op' : Operation} (h : op.IsScoped r)
    (hbranch : op'.branch? r = op.branch? r) (hhandle : op'.handle? = op.handle?) :
    op'.perform r = op.perform r := by
  obtain ⟨hmodel, category, hop, hcategory, hplan⟩ := h.plan
  obtain ⟨hplan', -, -⟩ := plan?_of_branch (hbranch.trans hop)
  rw [Resolver.planTo_eq hcategory, hhandle] at hplan'
  have hsame : r.categoryPlan category op.handle? op'.prefers =
      r.categoryPlan category op.handle? op.prefers := by
    funext s
    have halike := quietSteps_eq.categoryPlan (sameHandles_eq r) hmodel category op.handle?
      op'.prefers op.prefers s s rfl
    exact Prod.ext halike.1 halike.2
  rw [perform_of_plan hplan', perform_of_plan hplan, hsame]

/-- What is remembered stays so. -/
theorem IsScoped.memo_eq (h : op.IsScoped r) (s : Session) :
    ((op.perform r).run s).2.memo = s.memo := by
  obtain ⟨hmodel, category, -, -, hplan⟩ := h.plan
  have hkept := (quietSteps_remembers s.memo).categoryPlan (sameHandles_remembers s.memo r) hmodel
    category op.handle? op.prefers op.prefers
  have hmaking (d : ResolvedDirectory) : Alike (Beside (Session.Remembers s.memo))
      (Resolver.establish d) (Resolver.establish d) :=
    alike_beside_iff.mpr fun s' h => (Resolver.does_establish d s').memo_eq.trans h
  have hwhole := (hkept.bind hmaking).bind fun d => .pure (Answer.directory d)
  rw [perform_of_plan hplan, map_eq_pure_bind]
  exact alike_beside_iff.mp hwhole s rfl

end Operation

end BackupLocator
