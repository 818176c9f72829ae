import BackupLocator.Proofs.Resolver.Memo
import BackupLocator.Proofs.Resolver.Reading
import BackupLocator.Proofs.Resolver.Scoped

/-!
# A default root that is refused

What becomes of the memo where the default root is checked in the course of an operation and may not
be written to. On plain paths it is forgotten. By a handle the same directory may be checked as the
place that the handle stands for, and then it is still remembered.
-/

namespace BackupLocator

open BackupLocator.Action

/-! ## Choices that come upon a refusal -/

/-- A choice that has checked the default root in vain has forgotten it. The preferred root may lie
on the same path: then it is refused as well, and the default root is tried after it. -/
theorem Chooses.memo_of_refused {sel : Selector} {prefer : Bool} {fs : FileSystem}
    {memo : Option Site} {c : Choice} {site : Site} (h : Chooses sel prefer fs memo c)
    (hstanding : sel.standing memo = .ok site) (hchecked : site.path ∈ c.checked)
    (hrefused : fs.canWrite site.path = .ok false) : c.memo = none := by
  cases h with
  | unlisted => contradiction
  | unprobed _ hw | removable _ hw =>
    have hsame := List.mem_singleton.mp hchecked
    simp [← hsame, hrefused] at hw
  | fallback _ _ hsettles =>
    rw [hstanding] at hsettles
    exact hsettles.memo_of_refused hrefused

/-! ## Operations that take no branch -/

namespace Resolver

variable {r : Resolver}

/-- A category of no storage model is not looked for at all. -/
theorem planTo_fails {category : Category} (h : r.branchTo? category = none)
    (handle : Option String) (prefer : Bool) :
    ∃ e, r.planTo category handle prefer = Action.fail e := by
  have hmodel : r.modelOf? category = none := by simpa [branchTo?] using h
  have hcategory : category ≠ .legacy := by
    rintro rfl
    simp [modelOf?] at hmodel
  cases hversion : StorageModel.ofVersion r.platform.version with
  | error e =>
    rw [planTo_eq hcategory]
    unfold categoryPlan
    rw [hversion]
    exact ⟨e, rfl⟩
  | ok model =>
    cases category with
    | legacy => contradiction
    | full | plaintext => simp [modelOf?, hversion, Except.toOption] at hmodel

theorem requestPlan_fails {request : CategoryRequest}
    (h : request.category?.bind r.branchTo? = none) (handle : Option String) (prefer : Bool) :
    ∃ e, r.requestPlan request handle prefer = Action.fail e := by
  cases hcategory : request.category? with
  | some category =>
    rw [requestPlan_of_category hcategory]
    rw [hcategory] at h
    exact planTo_fails h handle prefer
  | none =>
    unfold requestPlan
    cases request with
    | tag tag =>
      cases htag : Category.ofTag tag with
      | error e =>
        dsimp only
        rw [htag]
        exact ⟨e, rfl⟩
      | ok category => simp [CategoryRequest.category?, htag, Except.toOption] at hcategory
    | category category => simp [CategoryRequest.category?] at hcategory
    | unknown =>
      dsimp only
      cases StorageModel.ofVersion r.platform.version with
      | error e => exact ⟨e, rfl⟩
      | ok model => exact ⟨.unsupported, rfl⟩

end Resolver

namespace Operation

variable {r : Resolver} {op : Operation} {s s' : Session}

/-- An operation that would give a directory, but takes no branch, fails at once. -/
theorem perform_fails (hop : op.isRead = false) (h : op.branch? r = none) :
    ∃ e, op.perform r = Action.fail e := by
  have hfails {plan : Action ResolvedDirectory} (hplan : op.plan? r = some plan)
      (hfail : ∃ e, plan = Action.fail e) : ∃ e, op.perform r = Action.fail e := by
    obtain ⟨e, rfl⟩ := hfail
    exact ⟨e, perform_of_plan hplan⟩
  cases op with
  | full handle prefer | plaintext handle prefer =>
    exact hfails rfl (Resolver.planTo_fails h handle prefer)
  | directory request handle prefer => exact hfails rfl (Resolver.requestPlan_fails h handle prefer)
  | legacy | legacyRoot => contradiction
  | canWriteDefault | legacyReadCandidates | selectRoot | defaultRoot | removableCandidates
  | invalidate => contradiction

/-- Apart from the question whether the default storage may be written to, an operation that takes
no branch checks nothing. -/
theorem does_unchecked (h : op.branch? r = none) (hop : op ≠ .canWriteDefault) (s : Session) :
    ∃ result memo, (op.perform r).Does s result s.files memo [] := by
  cases hread : op.isRead with
  | false =>
    obtain ⟨e, he⟩ := perform_fails hread h
    rw [he]
    exact ⟨_, _, .fail e s⟩
  | true =>
    cases op with
    | canWriteDefault => contradiction
    | legacyReadCandidates =>
      exact ⟨_, _, (r.does_legacyReadCandidates s).map Answer.paths⟩
    | selectRoot prefer =>
      have hselect := r.selector.does_selectRoot prefer s
      split at hselect <;> exact ⟨_, _, hselect.map Answer.site⟩
    | defaultRoot => exact ⟨_, _, (r.selector.does_defaultRoot s).map Answer.site⟩
    | removableCandidates => exact ⟨_, _, (r.selector.does_candidates s).map Answer.sites⟩
    | invalidate => exact ⟨_, _, (Selector.does_invalidate s).map fun _ => Answer.done⟩
    | full | plaintext | legacy | legacyRoot | directory => contradiction

/-! ## The memo after a refusal -/

/-- Where the default root, as it is remembered or will be, is checked in vain, it is forgotten. But
an operation that goes by a handle keeps what was remembered. -/
theorem memo_after_refusal {result : Except Failure Answer} {site : Site}
    (h : (op.perform r).run s = (result, s')) (hstanding : r.selector.standing s.memo = .ok site)
    (hrefused : s.RefusedSince s' site.path) :
    (op.IsScoped r → s'.memo = s.memo) ∧ (¬op.IsScoped r → s'.memo = none) := by
  obtain rfl : ((op.perform r).run s).2 = s' := congrArg Prod.snd h
  refine ⟨fun hscoped => hscoped.memo_eq s, fun hdirect => ?_⟩
  cases hbranch : op.branch? r with
  | none =>
    by_cases hop : op = .canWriteDefault
    · subst hop
      obtain ⟨c, hc⟩ := exists_settles s.files (r.selector.standing s.memo)
      have hdoes := does_canWriteDefault hc
      obtain ⟨-, hw⟩ := hdoes.of_refusedSince hrefused
      rw [hstanding] at hc
      exact hdoes.memo_eq.trans (hc.memo_of_refused hw)
    · -- No other operation without a branch can have come upon the refusal.
      obtain ⟨result, memo, hdoes⟩ := does_unchecked hbranch hop s
      exact absurd (hdoes.of_refusedSince hrefused).1 List.not_mem_nil
  | some branch =>
    obtain ⟨category, model⟩ := branch
    match model with
    | .scoped => exact absurd ⟨category, hbranch⟩ hdirect
    | .legacy =>
      obtain ⟨c, hc⟩ := exists_chooses r.selector op.prefers s.files s.memo
      obtain ⟨plan, hplan, hplanned⟩ := does_plan hbranch hc
      have hdoes := does_perform hplan hplanned
      obtain ⟨hchecked, hw⟩ := hdoes.of_refusedSince hrefused
      exact hdoes.memo_eq.trans (hc.memo_of_refused hstanding hchecked hw)

/-- A card that is remembered has been locked. An operation on plain paths finds that out and
forgets the card. -/
theorem memo_after_refusal_on_card :
    let checked : Turn := ⟨id, Card.platform 29, .canWriteDefault⟩
    let lived := (Session.start Card.empty).after Card.resolver.package false [checked]
    let s : Session := { lived with files := Card.locked }
    let s' := ((legacy.perform Card.resolver).run s).2
    s.memo = some Card.site ∧ s.RefusedSince s' Card.path ∧ s'.memo = none := by
  intro checked lived s s'
  have hrefused : s.RefusedSince s' Card.path :=
    ⟨[.noted _, .noted _, .checked Card.path false], rfl, by simp⟩
  have hdirect : legacy.IsDirect Card.resolver (some .legacy) := rfl
  exact ⟨rfl, hrefused, (memo_after_refusal rfl rfl hrefused).2 hdirect.not_isScoped⟩

/-- A handle that stands for the locked card leads to the same check, and the card is still
remembered. -/
theorem refused_memo_is_kept_on_card :
    let r : Resolver := ⟨Card.platform 30, .unset, false⟩
    let checked : Turn := ⟨id, r.platform, .canWriteDefault⟩
    let lived := (Session.start Card.empty).after r.package false [checked]
    let s : Session := { lived with files := Card.locked }
    let s' := (((full (some "primary:") false).perform r).run s).2
    s.memo = some Card.site ∧ s.RefusedSince s' Card.path ∧ s'.memo = some Card.site :=
  ⟨rfl, ⟨[.noted _, .checked Card.path false, .description _, .handlePath _, .noted _], rfl,
    by simp⟩, rfl⟩

end Operation

end BackupLocator
