import BackupLocator.Proofs.Resolver.Independence
import BackupLocator.Proofs.Resolver.Provenance
import BackupLocator.Proofs.Resolver.Refusal

/-!
# What an operation asks

How often the platform is asked in the course of one operation. It is asked for its default root at
most once, and only if nothing was remembered before: what a first question has led to is
remembered when the operation comes to need the root again. The removable roots are never
remembered, so they are asked for once by each operation that looks through them.
-/

namespace BackupLocator

open BackupLocator.Action

/-! ## Counting questions -/

/-- Whether an event asks the platform for its default root. -/
def Event.asksDefaultRoot : Event → Bool
  | .defaultRoot _ => true
  | _ => false

/-- Whether an event asks the platform for its removable roots. -/
def Event.asksExternalRoots : Event → Bool
  | .externalRoots => true
  | _ => false

/-- From one session to a later one the platform has been asked so often for its default root, and
so often for its removable roots. -/
def Session.Asked (s s' : Session) (defaults listings : Nat) : Prop :=
  ∃ events, s'.journal = events ++ s.journal ∧
    events.countP Event.asksDefaultRoot = defaults ∧
    events.countP Event.asksExternalRoots = listings

/-- From one session to a later one the platform has been asked for neither. -/
abbrev Session.Unasked (s s' : Session) : Prop := s.Asked s' 0 0

namespace Session

variable {s s' s'' : Session} {d d' n n' : Nat}

theorem unasked_refl (s : Session) : s.Unasked s := ⟨[], rfl, rfl, rfl⟩

theorem Asked.trans (h : s.Asked s' d n) (h' : s'.Asked s'' d' n') :
    s.Asked s'' (d + d') (n + n') := by
  obtain ⟨events, hjournal, rfl, rfl⟩ := h
  obtain ⟨events', hjournal', rfl, rfl⟩ := h'
  refine ⟨events' ++ events, ?_, ?_, ?_⟩
  · rw [hjournal', hjournal, List.append_assoc]
  · rw [List.countP_append, Nat.add_comm]
  · rw [List.countP_append, Nat.add_comm]

/-- As long as the platform is not asked for its default root, its latest answer stays. -/
theorem Asked.latestAnswer?_eq (h : s.Asked s' 0 n) : s'.latestAnswer? = s.latestAnswer? := by
  obtain ⟨events, hjournal, hnone, -⟩ := h
  have hother : ∀ event ∈ events, event.rootAnswer? = none := by
    intro event hmem
    have hasked := List.countP_eq_zero.mp hnone event hmem
    cases event <;> first | rfl | exact absurd rfl hasked
  rw [latestAnswer?, hjournal, List.findSome?_append, List.findSome?_eq_none_iff.mpr hother,
    Option.none_or, latestAnswer?]

/-- And what is remembered stays so or is forgotten. -/
theorem Asked.memo_eq (h : s.Asked s' 0 n) (hs : s.Traced) (hs' : s'.Traced) {site : Site}
    (hmemo : s.memo = some site) : s'.memo = some site ∨ s'.memo = none := by
  cases hmemo' : s'.memo with
  | none => exact .inr rfl
  | some site' =>
    have hanswer := hs' site' hmemo'
    rw [h.latestAnswer?_eq, hs site hmemo, Option.some.injEq, Except.ok.injEq,
      Option.some.injEq, Site.root_inj] at hanswer
    exact .inl (congrArg some hanswer.symm)

theorem Unasked.record {event : Event} (h : s.Unasked s') (hevent : event.asksForRoots = false) :
    s.Unasked { s' with journal := event :: s'.journal } := by
  have hnothing : event.asksDefaultRoot = false ∧ event.asksExternalRoots = false := by
    cases event <;> first | exact ⟨rfl, rfl⟩ | contradiction
  have hrecorded : s'.Unasked { s' with journal := event :: s'.journal } :=
    ⟨[event], rfl, by simp [hnothing], by simp [hnothing]⟩
  exact h.trans hrecorded

end Session

/-! ## Steps that ask for neither -/

theorem quietSteps_unasked (s₀ : Session) : QuietSteps (Beside s₀.Unasked) :=
  .of_recorded fun _ _ hevent h => h.record hevent

theorem sameHandles_unasked (s₀ : Session) (r : Resolver) :
    SameHandles (Beside s₀.Unasked) r r := .of_recorded (fun _ _ hevent h => h.record hevent) r

theorem commonSteps_unasked (s₀ : Session) : CommonSteps (Beside s₀.Unasked) where
  note := (quietSteps_unasked s₀).note
  invalidate := alike_beside_iff.mpr fun s h => by
    rcases s with ⟨files, _ | site, journal⟩
    · exact h
    · exact h.record rfl
  isDirectory _ := alike_beside_iff.mpr fun _ h => h
  canWrite := (quietSteps_unasked s₀).canWrite

/-- A directory is made: all that is recorded is a note. -/
theorem alike_makeDirectory_unasked (s₀ : Session) (path : Path) :
    Alike (Beside s₀.Unasked) (makeDirectory path true true) (makeDirectory path true true) :=
  alike_beside_iff.mpr fun s h => by
    have hnoted := alike_beside_iff.mp ((quietSteps_unasked s₀).note .debug .store
      ("Creating directory " ++ path.text)) s h
    exact hnoted

/-! ## Actions that ask for the default root once -/

namespace Action

variable {α β : Type}

/-- On a session an action asks for the removable roots so often, and for the default root at most
once, and only if nothing is remembered. Each rule is one way. Where the action succeeds, what it
has asked for is remembered, and else what was remembered before. -/
inductive Asks (x : Action α) (s : Session) (listings : Nat) : Prop
  | nothing : s.Asked (x.run s).2 0 listings →
      (∀ a, (x.run s).1 = .ok a → (x.run s).2.memo = s.memo) → Asks x s listings
  | defaultRoot : s.memo = none → s.Asked (x.run s).2 1 listings →
      (∀ a, (x.run s).1 = .ok a → (x.run s).2.memo ≠ none) → Asks x s listings

/-- On a session an action asks for the removable roots so often, and for the default root at most
once, and only if nothing is remembered. -/
def AsksOnce (x : Action α) (s : Session) (listings : Nat) : Prop :=
  ∃ defaults, s.Asked (x.run s).2 defaults listings ∧ (defaults = 0 ∨ defaults = 1 ∧ s.memo = none)

variable {x : Action α} {f : α → Action β} {s s' : Session} {a : α} {n : Nat}

namespace Asks

theorem of_unasked (h : Alike (Beside s.Unasked) x x)
    (hmemo : ∀ a, (x.run s).1 = .ok a → (x.run s).2.memo = s.memo) : x.Asks s 0 :=
  .nothing (alike_beside_iff.mp h s s.unasked_refl) hmemo

theorem pure (a : α) (s : Session) : (pure a : Action α).Asks s 0 :=
  .nothing s.unasked_refl fun _ _ => rfl

theorem fail (e : Failure) (s : Session) : (fail e : Action α).Asks s 0 :=
  .nothing s.unasked_refl (by simp)

theorem ofExcept (result : Except Failure α) (s : Session) : (ofExcept result).Asks s 0 := by
  cases result with
  | ok a => exact .pure a s
  | error e => exact .fail e s

theorem note (level : Level) (component : Component) (text : String) (s : Session) :
    (Action.note level component text).Asks s 0 :=
  .of_unasked ((quietSteps_unasked s).note level component text) fun _ _ => rfl

/-- Only the first of two actions asks for the removable roots. What it has asked for is remembered
when the second one runs. -/
theorem bind (hx : x.Asks s n) (hf : ∀ a s', (f a).Asks s' 0) : (x >>= f).Asks s n := by
  rcases hrun : x.run s with ⟨e | a, s'⟩
  · have hbind := run_bind_error (f := f) hrun
    cases hx with
    | nothing hasked _ =>
      rw [hrun] at hasked
      exact .nothing (by rwa [hbind]) (by simp [hbind])
    | defaultRoot hnone hasked _ =>
      rw [hrun] at hasked
      exact .defaultRoot hnone (by rwa [hbind]) (by simp [hbind])
  · have hbind := run_bind_ok (f := f) hrun
    cases hx with
    | nothing hasked hmemo =>
      rw [hrun] at hasked hmemo
      have hsame : s'.memo = s.memo := hmemo a rfl
      cases hf a s' with
      | nothing hasked' hmemo' =>
        refine .nothing (hbind ▸ hasked.trans hasked') fun b hb => ?_
        rw [hbind] at hb ⊢
        exact (hmemo' b hb).trans hsame
      | defaultRoot hnone hasked' hmemo' =>
        refine .defaultRoot (hsame ▸ hnone) (hbind ▸ by simpa using hasked.trans hasked') ?_
        rwa [hbind]
    | defaultRoot hnone hasked hmemo =>
      rw [hrun] at hasked hmemo
      have hsome : s'.memo ≠ none := hmemo a rfl
      cases hf a s' with
      | nothing hasked' hmemo' =>
        refine .defaultRoot hnone (hbind ▸ hasked.trans hasked') fun b hb => ?_
        rw [hbind] at hb ⊢
        rwa [hmemo' b hb]
      | defaultRoot hnone' _ _ => exact absurd hnone' hsome

/-- The first of two actions asks for nothing and goes through, so what is asked is what the second
one asks. -/
theorem bind_of_ok (hrun : x.run s = (.ok a, s')) (hunasked : s.Unasked s')
    (hmemo : s'.memo = s.memo) (hf : (f a).Asks s' n) : (x >>= f).Asks s n := by
  have hbind := run_bind_ok (f := f) hrun
  cases hf with
  | nothing hasked hsame =>
    refine .nothing (hbind ▸ by simpa using hunasked.trans hasked) fun b hb => ?_
    rw [hbind] at hb ⊢
    exact (hsame b hb).trans hmemo
  | defaultRoot hnone hasked hsome =>
    refine .defaultRoot (hmemo ▸ hnone) (hbind ▸ by simpa using hunasked.trans hasked) ?_
    rwa [hbind]

theorem map (h : x.Asks s n) (g : α → β) : (g <$> x).Asks s n := by
  rw [map_eq_pure_bind]
  exact h.bind fun a s' => .pure (g a) s'

theorem once (h : x.Asks s n) : x.AsksOnce s n := by
  cases h with
  | nothing hasked _ => exact ⟨0, hasked, .inl rfl⟩
  | defaultRoot hnone hasked _ => exact ⟨1, hasked, .inr ⟨rfl, hnone⟩⟩

end Asks

namespace AsksOnce

theorem of_unasked (h : Alike (Beside s.Unasked) x x) : x.AsksOnce s 0 :=
  ⟨0, alike_beside_iff.mp h s s.unasked_refl, .inl rfl⟩

/-- Behind an action another one asks for nothing more. -/
theorem bind_unasked (hx : x.AsksOnce s n)
    (hf : ∀ a s', Alike (Beside (Session.Unasked s')) (f a) (f a)) : (x >>= f).AsksOnce s n := by
  obtain ⟨d, hasked, hd⟩ := hx
  rcases hrun : x.run s with ⟨e | a, s'⟩
  · rw [hrun] at hasked
    exact ⟨d, by rwa [run_bind_error hrun], hd⟩
  · rw [hrun] at hasked
    have hrest := alike_beside_iff.mp (hf a s') s' s'.unasked_refl
    exact ⟨d, by simpa [run_bind_ok hrun] using hasked.trans hrest, hd⟩

end AsksOnce

end Action

/-! ## The default root and the removable roots -/

namespace Selector

variable (sel : Selector)

/-- How often a choice of a root asks for the removable roots: once where one is preferred and the
version can have several volumes. -/
def listings (prefer : Bool) : Nat :=
  if prefer = true ∧ sel.platform.version.IsAtLeast Version.firstMultiVolume then 1 else 0

theorem asks_defaultRoot (s : Session) : sel.defaultRoot.Asks s 0 := by
  rcases s with ⟨files, _ | site, journal⟩
  · rcases sel with ⟨⟨version, answer, externalRoots, description, handlePath⟩, sorted⟩
    rcases answer with e | _ | ⟨_ | path, handle, description⟩
    · exact .defaultRoot rfl ⟨[.defaultRoot _], rfl, rfl, rfl⟩ (by rintro _ ⟨⟩)
    · exact .defaultRoot rfl ⟨[.noted _, .defaultRoot _], rfl, rfl, rfl⟩ (by rintro _ ⟨⟩)
    · exact .defaultRoot rfl ⟨[.noted _, .defaultRoot _], rfl, rfl, rfl⟩ (by rintro _ ⟨⟩)
    · exact .defaultRoot rfl ⟨[.defaultRoot _], rfl, rfl, rfl⟩ fun _ _ => Option.some_ne_none _
  · exact .nothing (Session.unasked_refl _) fun _ _ => rfl

theorem asks_candidates (s : Session) : sel.candidates.Asks s 1 := by
  have hask : (askExternalRoots sel.platform).Asks s 1 :=
    .nothing ⟨[.externalRoots], rfl, rfl, rfl⟩ fun _ _ => rfl
  exact hask.bind fun _ s' => .pure _ s'

theorem asks_selectRoot (prefer : Bool) (s : Session) :
    (sel.selectRoot prefer).Asks s (sel.listings prefer) := by
  unfold selectRoot offersRemovable
  cases prefer with
  | false => exact sel.asks_defaultRoot s
  | true =>
    rcases hmany : sel.platform.version.hasManyVolumes with e | _ | _ <;>
      simp only [listings, ← Version.hasManyVolumes_eq_true_iff, hmany, Except.ok.injEq,
        reduceCtorEq, and_false, and_true, if_true, if_false]
    · exact .fail e s
    · exact sel.asks_defaultRoot s
    · refine (sel.asks_candidates s).bind fun sites s' => ?_
      cases sites.head? with
      | some site => exact (Asks.note _ _ _ s').bind fun _ s'' => .pure site s''
      | none => exact (Asks.note _ _ _ s').bind fun _ s'' => sel.asks_defaultRoot s''

end Selector

/-! ## Operations -/

namespace Resolver

variable (r : Resolver) (s : Session)

theorem asks_canWrite (path : Path) : (canWrite path).Asks s 0 :=
  .of_unasked ((quietSteps_unasked s).canWrite path) fun _ _ => (Does.canWrite path s).memo_eq

/-- Where a check forgets something it fails. -/
theorem asks_requireWritable (path : Path) (forget : Bool) :
    (requireWritable path forget).Asks s 0 := by
  unfold requireWritable
  refine (asks_canWrite s path).bind fun writable s => ?_
  cases writable with
  | true => exact .pure () s
  | false =>
    have hcommon := commonSteps_unasked s
    have hend := hcommon.quiet.noteAndFail Unit .error .resolver
      ("Storage at " ++ path.text ++ " is not writable") (.notWritable path)
    cases forget with
    | false => exact .of_unasked hend fun _ _ => rfl
    | true =>
      refine .of_unasked (.bind hcommon.invalidate fun _ => hend) fun _ hok => ?_
      rcases s with ⟨files, _ | site, journal⟩ <;> cases hok

theorem asks_writableRoot (prefer : Bool) :
    (r.writableRoot prefer).Asks s (r.selector.listings prefer) := by
  unfold writableRoot
  refine (r.selector.asks_selectRoot prefer s).bind fun site s => ?_
  refine (asks_canWrite s site.path).bind fun writable s => ?_
  cases writable with
  | true => exact .pure site s
  | false =>
    refine (r.selector.asks_defaultRoot s).bind fun default s => ?_
    by_cases hsite : site = default
    · simp only [hsite, ne_eq, not_true_eq_false, if_false]
      exact (asks_requireWritable s _ true).bind fun _ s => .pure default s
    · simp only [hsite, ne_eq, not_false_eq_true, if_true]
      refine (Asks.note _ _ _ s).bind fun _ s => ?_
      exact (asks_requireWritable s _ true).bind fun _ s => .pure default s

/-- How often the directory of a category asks for the removable roots: as often as the choice of
a root, in the versions that are reached by plain paths. Backups in the older way never do. -/
def listings (category : Category) (prefer : Bool) : Nat :=
  if category ≠ .legacy ∧ r.platform.version.IsBelow Version.firstScoped then
    r.selector.listings prefer
  else 0

theorem asks_legacyPlan : r.legacyPlan.Asks s 0 := by
  unfold legacyPlan
  refine (r.selector.asks_defaultRoot s).bind fun site s => ?_
  refine (asks_requireWritable s _ true).bind fun _ s => ?_
  exact (Asks.ofExcept _ s).bind fun path s => .pure _ s

theorem asks_categoryPlan {category : Category} (hcategory : category ≠ .legacy)
    (handle : Option String) (prefer : Bool) :
    (r.categoryPlan category handle prefer).Asks s (r.listings category prefer) := by
  rcases hmodel : StorageModel.ofVersion r.platform.version with e | _ | _ <;>
    simp only [listings, ← StorageModel.ofVersion_eq_legacy_iff, hmodel, hcategory, ne_eq,
      not_false_eq_true, true_and, Except.ok.injEq, reduceCtorEq, if_true, if_false]
  · unfold categoryPlan
    rw [hmodel]
    exact .fail e s
  · rw [categoryPlan_of_legacy r hmodel]
    refine .bind_of_ok rfl ⟨[.noted _], rfl, rfl, rfl⟩ rfl ?_
    have hignored (s : Session) : ∃ s', (noteIgnored handle).run s = (.ok (), s') ∧
        s.Unasked s' ∧ s'.memo = s.memo := by
      unfold noteIgnored
      split
      · exact ⟨_, rfl, ⟨[.noted _], rfl, rfl, rfl⟩, rfl⟩
      · exact ⟨s, rfl, s.unasked_refl, rfl⟩
    obtain ⟨s', hrun, hunasked, hmemo⟩ := hignored _
    refine .bind_of_ok hrun hunasked hmemo ?_
    exact (r.asks_writableRoot s' prefer).bind fun site s => .ofExcept _ s
  · -- By a handle the platform is asked for other things only.
    have hunasked := (quietSteps_unasked s).categoryPlan (sameHandles_unasked s r) hmodel
      category handle prefer prefer
    have hkept := (quietSteps_remembers s.memo).categoryPlan (sameHandles_remembers s.memo r) hmodel
      category handle prefer prefer
    exact .of_unasked hunasked fun _ _ => alike_beside_iff.mp hkept s rfl

theorem asks_planTo (category : Category) (handle : Option String) (prefer : Bool) :
    (r.planTo category handle prefer).Asks s (r.listings category prefer) := by
  cases category with
  | legacy => exact r.asks_legacyPlan s
  | full | plaintext => exact r.asks_categoryPlan s (by simp) handle prefer

theorem asks_establish (d : ResolvedDirectory) : (establish d).Asks s 0 :=
  .of_unasked ((quietSteps_unasked s).establish (alike_makeDirectory_unasked s) d)
    fun _ _ => (does_establish d s).memo_eq

theorem asksOnce_canWriteDefault : r.canWriteDefault.AsksOnce s 0 := by
  have hasks : r.selector.defaultRoot.attempt.AsksOnce s 0 := (r.selector.asks_defaultRoot s).once
  rw [canWriteDefault_eq]
  refine hasks.bind_unasked fun outcome s' => ?_
  have hcommon := commonSteps_unasked s'
  cases outcome with
  | error e =>
    dsimp only
    split
    · exact .pure false
    · exact .fail e
  | ok site =>
    refine .bind (hcommon.canWrite site.path) fun writable => ?_
    cases writable with
    | true => exact .pure true
    | false => exact .bind hcommon.invalidate fun _ => .pure false

theorem asksOnce_legacyReadCandidates : r.legacyReadCandidates.AsksOnce s 0 := by
  refine (r.selector.asks_defaultRoot s).once.bind_unasked fun site s' => ?_
  refine .bind (.ofExcept _) fun nested => ?_
  exact .bind (.ofExcept _) fun flattened => (commonSteps_unasked s').existing _

end Resolver

namespace Operation

/-- How often an operation asks for the removable roots. -/
def listings (r : Resolver) : Operation → Nat
  | .full _ prefer => r.listings .full prefer
  | .plaintext _ prefer => r.listings .plaintext prefer
  | .directory request _ prefer =>
    match request.category? with
    | some category => r.listings category prefer
    | none => 0
  | .legacyRoot prefer => r.selector.listings prefer
  | .selectRoot prefer => r.selector.listings prefer
  | .removableCandidates => 1
  | .legacy => 0
  | .canWriteDefault => 0
  | .legacyReadCandidates => 0
  | .defaultRoot => 0
  | .invalidate => 0

variable (r : Resolver) (op : Operation) (s : Session)

theorem asks_plan {plan : Action ResolvedDirectory} (h : op.plan? r = some plan) :
    plan.Asks s (op.listings r) := by
  cases op <;> simp only [plan?, Option.some.injEq, reduceCtorEq] at h <;> subst h
  case full handle prefer => exact r.asks_planTo s .full handle prefer
  case plaintext handle prefer => exact r.asks_planTo s .plaintext handle prefer
  case legacy => exact r.asks_legacyPlan s
  case legacyRoot prefer => exact (r.asks_writableRoot s prefer).bind fun site s => .pure _ s
  case directory request handle prefer =>
    cases hcategory : request.category? with
    | some category =>
      simp only [listings, hcategory, Resolver.requestPlan_of_category hcategory]
      exact r.asks_planTo s category handle prefer
    | none =>
      have hbranch : request.category?.bind r.branchTo? = none := by rw [hcategory]; rfl
      obtain ⟨e, he⟩ := Resolver.requestPlan_fails hbranch handle prefer
      simp only [listings, hcategory, he]
      exact .fail e s

theorem perform_asksOnce : (op.perform r).AsksOnce s (op.listings r) := by
  cases hread : op.isRead with
  | false =>
    obtain ⟨plan, hplan⟩ := exists_plan r hread
    rw [perform_of_plan hplan]
    have hasks := (op.asks_plan r s hplan).bind fun d s => Resolver.asks_establish s d
    exact (hasks.map Answer.directory).once
  | true =>
    cases op with
    | canWriteDefault =>
      exact (r.asksOnce_canWriteDefault s).bind_unasked fun b s => .pure (Answer.flag b)
    | legacyReadCandidates =>
      exact (r.asksOnce_legacyReadCandidates s).bind_unasked fun ps s => .pure (Answer.paths ps)
    | selectRoot prefer =>
      have hasks := r.selector.asks_selectRoot prefer s
      exact (hasks.bind fun site s => .pure (Answer.site site) s).once
    | defaultRoot =>
      have hasks := r.selector.asks_defaultRoot s
      exact (hasks.bind fun site s => .pure (Answer.site site) s).once
    | removableCandidates =>
      have hasks := r.selector.asks_candidates s
      exact (hasks.bind fun sites s => .pure (Answer.sites sites) s).once
    | invalidate =>
      exact .of_unasked (.bind (commonSteps_unasked s).invalidate fun _ => .pure Answer.done)
    | full | plaintext | legacy | legacyRoot | directory => contradiction

end Operation

/-! ## Lives -/

/-- In the course of any life, whatever the platform answers at each turn: what is remembered is at
every moment the root of the platform's latest answer, and gives way to another root only by being
forgotten, so not in one turn. One turn asks for the default root at most once, and only if nothing
was remembered before. It asks for the removable roots as often as its operation does, whatever was
asked before. -/
theorem Session.memo_follows_answers (package : PackageId) (sorted : Bool) (fs : FileSystem)
    (turns : List Turn) (turn : Turn) :
    let s := (start fs).after package sorted turns
    let s' := (turn.take package sorted s).2
    (start fs).Reaches s ∧ s.Reaches s' ∧
      (∀ t, (start fs).Reaches t → t.Traced ∧
        ∀ u site, t.Step u → t.memo = some site → u.memo = some site ∨ u.memo = none) ∧
      (∀ site, s.memo = some site → s'.memo = some site ∨ s'.memo = none) ∧
      ∃ defaults, s.Asked s' defaults (turn.operation.listings ⟨turn.platform, package, sorted⟩) ∧
        (defaults = 0 ∨ defaults = 1 ∧ s.memo = none) := by
  intro s s'
  have hlived : (start fs).Reaches s := reaches_after package sorted _ turns
  have htaken : s.Reaches s' := reaches_take package sorted turn s
  have htraced {t : Session} (h : (start fs).Reaches t) : t.Traced := h.traced (traced_start fs)
  obtain ⟨defaults, hasked, honce⟩ :=
    turn.operation.perform_asksOnce ⟨turn.platform, package, sorted⟩
      { s with files := turn.change s.files }
  have hasked : s.Asked s' defaults _ := hasked
  refine ⟨hlived, htaken, ?_, ?_, defaults, hasked, honce⟩
  · intro t hreaches
    refine ⟨htraced hreaches, ?_⟩
    intro u site hstep hmemo
    exact hstep.memo_eq hmemo
  · intro site hmemo
    rcases honce with rfl | ⟨-, hnone⟩
    · exact hasked.memo_eq (htraced hlived) (htraced (hlived.trans htaken)) hmemo
    · exact absurd (hmemo.symm.trans hnone) (Option.some_ne_none site)

/-- The card is asked for in the first of three turns and remembered in the second. The third finds
it locked and forgets it. -/
example :
    let s := (Session.start Card.empty).after .unset false
      [⟨id, Card.platform 29, .full none true⟩, ⟨id, Card.platform 29, .legacyRoot true⟩]
    let s' := s.after .unset false [⟨fun _ => Card.locked, Card.platform 29, .legacy⟩]
    (Session.start Card.empty).Asked s' 1 2 ∧ s.Asked s' 0 0 ∧ s'.memo = none :=
  ⟨⟨_, (List.append_nil _).symm, rfl, rfl⟩, ⟨[.noted _, .noted _, .checked _ _], rfl, rfl, rfl⟩,
    rfl⟩

end BackupLocator
