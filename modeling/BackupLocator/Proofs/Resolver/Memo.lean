import BackupLocator.Proofs.Resolver.Ending

/-!
# A memo that nobody notices

A resolver lives on while the world around it changes. What it remembers of the default root is
either nothing or what the platform would answer anyway, as long as the platform has one answer
only. So nothing that is asked of it tells whether it remembers anything: a resolver made anew
gives the same results and does the same to the files.
-/

namespace BackupLocator

open BackupLocator.Action

/-! ## A faithful memo -/

/-- A memo holds nothing but what the platform's answer leads to. -/
def Faithful (answer : Except Failure (Option StorageRoot)) (memo : Option Site) : Prop :=
  ∀ site, memo = some site → defaultSite answer = .ok site

theorem Faithful.none (answer : Except Failure (Option StorageRoot)) : Faithful answer none := by
  intro site h
  contradiction

/-- Two sessions with the same files, and each with a faithful memo. -/
structure Twins (answer : Except Failure (Option StorageRoot)) (s t : Session) : Prop where
  files : s.files = t.files
  left : Faithful answer s.memo
  right : Faithful answer t.memo

variable {answer : Except Failure (Option StorageRoot)}

/-- A session beside the one that has its files and remembers nothing. -/
theorem twins_start {s : Session} (h : Faithful answer s.memo) :
    Twins answer s (.start s.files) where
  files := rfl
  left := h
  right := .none answer

/-! ## Single steps -/

theorem commonSteps_twins (answer : Except Failure (Option StorageRoot)) :
    CommonSteps (Twins answer) where
  note _ _ _ _ _ h := ⟨rfl, h.files, h.left, h.right⟩
  invalidate s t h := by
    obtain ⟨journal, hs⟩ := Selector.run_invalidate s
    obtain ⟨journal', ht⟩ := Selector.run_invalidate t
    rw [hs, ht]
    exact ⟨rfl, h.files, .none answer, .none answer⟩
  isDirectory path s t h := ⟨congrArg (·.isDirectory path) h.files, h⟩
  canWrite path s t h := by
    obtain ⟨journal, hs⟩ := run_canWrite path s
    obtain ⟨journal', ht⟩ := run_canWrite path t
    rw [hs, ht, h.files]
    exact ⟨rfl, rfl, h.left, h.right⟩

theorem alike_makeDirectory (path : Path) :
    Alike (Twins answer) (makeDirectory path true true) (makeDirectory path true true) := by
  intro s t h
  obtain ⟨journal, hs⟩ := run_makeDirectory path true true s
  obtain ⟨journal', ht⟩ := run_makeDirectory path true true t
  rw [hs, ht, h.files]
  exact ⟨rfl, rfl, h.left, h.right⟩

/-- The default root does not depend on whether it is remembered. -/
theorem defaultRoot_of_faithful (sel : Selector) {s : Session}
    (h : Faithful sel.platform.defaultRoot s.memo) :
    (sel.defaultRoot.run s).1 = defaultSite sel.platform.defaultRoot ∧
      (sel.defaultRoot.run s).2.files = s.files ∧
      Faithful sel.platform.defaultRoot (sel.defaultRoot.run s).2.memo := by
  cases hm : s.memo with
  | none =>
    obtain ⟨journal, hrun⟩ := sel.run_defaultRoot_of_forgotten hm
    rw [hrun]
    refine ⟨rfl, rfl, ?_⟩
    intro site hsite
    cases hd : defaultSite sel.platform.defaultRoot with
    | error e => simp [hd, Except.toOption] at hsite
    | ok site' => simpa [hd, Except.toOption] using hsite
  | some site =>
    rw [sel.run_defaultRoot_of_remembered hm]
    exact ⟨(h site hm).symm, rfl, h⟩

theorem sameAnswers_twins (r : Resolver) : SameAnswers (Twins r.platform.defaultRoot) r r where
  package := rfl
  sorted := rfl
  version := rfl
  defaultRoot s t h := by
    obtain ⟨hs, hsf, hsm⟩ := defaultRoot_of_faithful r.selector h.left
    obtain ⟨ht, htf, htm⟩ := defaultRoot_of_faithful r.selector h.right
    exact ⟨hs.trans ht.symm, by rw [hsf, htf, h.files], hsm, htm⟩
  externalRoots s t h := ⟨congrArg r.platform.externalRoots h.files, h.files, h.left, h.right⟩
  description volume := by
    refine .bind ?_ fun _ => .ofExcept _
    intro s t h
    exact ⟨rfl, h.files, h.left, h.right⟩
  handlePath handle s t h := by
    obtain ⟨journal, hs⟩ := run_askHandlePath r.platform handle s
    obtain ⟨journal', ht⟩ := run_askHandlePath r.platform handle t
    rw [hs, ht, h.files]
    exact ⟨rfl, rfl, h.left, h.right⟩

/-! ## Turns -/

/-- A moment in the life of a resolver: the files have changed, the platform gives new answers, and
something is asked. -/
structure Turn where
  change : FileSystem → FileSystem
  platform : Platform
  operation : Operation

/-- A resolver for one build carries out a turn. -/
def Turn.take (package : PackageId) (sorted : Bool) (turn : Turn) (s : Session) :
    Except Failure Answer × Session :=
  (turn.operation.perform ⟨turn.platform, package, sorted⟩).run
    { s with files := turn.change s.files }

/-- The session behind some turns. -/
def Session.after (package : PackageId) (sorted : Bool) (s : Session) : List Turn → Session
  | [] => s
  | turn :: turns => Session.after package sorted (turn.take package sorted s).2 turns

variable (package : PackageId) (sorted : Bool)

theorem Twins.take {s t : Session} (h : Twins answer s t) {turn : Turn}
    (hturn : turn.platform.defaultRoot = answer) :
    (turn.take package sorted s).1 = (turn.take package sorted t).1 ∧
      Twins answer (turn.take package sorted s).2 (turn.take package sorted t).2 := by
  subst hturn
  have hcommon := commonSteps_twins turn.platform.defaultRoot
  have hsame := sameAnswers_twins ⟨turn.platform, package, sorted⟩
  have hchanged : Twins turn.platform.defaultRoot { s with files := turn.change s.files }
      { t with files := turn.change t.files } :=
    ⟨congrArg turn.change h.files, h.left, h.right⟩
  exact hcommon.perform hsame alike_makeDirectory turn.operation _ _ hchanged

/-- What each turn keeps is kept in the course of a life. -/
theorem Session.after_keeps {P : Session → Prop} {turns : List Turn}
    (hturns : ∀ turn ∈ turns, ∀ s, P s → P (turn.take package sorted s).2) {s : Session}
    (hs : P s) : P (s.after package sorted turns) := by
  induction turns generalizing s with
  | nil => exact hs
  | cons turn turns ih =>
    rw [List.forall_mem_cons] at hturns
    exact ih hturns.2 (hturns.1 s hs)

/-- A memo stays faithful in the course of a life. -/
theorem Faithful.after {s : Session} (h : Faithful answer s.memo) {turns : List Turn}
    (hturns : ∀ turn ∈ turns, turn.platform.defaultRoot = answer) :
    Faithful answer (s.after package sorted turns).memo := by
  have hkept : ∀ turn ∈ turns, ∀ s : Session, Faithful answer s.memo →
      Faithful answer (turn.take package sorted s).2.memo := by
    intro turn hmem s hs
    -- Beside a resolver made anew one turn leaves either memo faithful.
    exact ((twins_start hs).take package sorted (hturns turn hmem)).2.left
  exact Session.after_keeps package sorted (P := fun s => Faithful answer s.memo) hkept h

variable {package sorted}

/-- As long as the platform has one answer about its default root, a resolver that has lived through
any turns does in the next one what a resolver made anew does. -/
theorem memo_is_unobservable {fs : FileSystem} {turns : List Turn} {turn : Turn}
    (h : ∀ t ∈ turns ++ [turn], t.platform.defaultRoot = answer) :
    let s := (Session.start fs).after package sorted turns
    let lived := turn.take package sorted s
    let anew := turn.take package sorted (.start s.files)
    lived.1 = anew.1 ∧ lived.2.files = anew.2.files := by
  intro s lived anew
  have hbefore : ∀ t ∈ turns, t.platform.defaultRoot = answer := by
    intro t hmem
    exact h t (List.mem_append_left _ hmem)
  have hfaithful : Faithful answer s.memo :=
    Faithful.after package sorted (.none answer) hbefore
  have hturn := h turn (List.mem_append_right _ List.mem_cons_self)
  obtain ⟨hresult, htwins⟩ := (twins_start hfaithful).take package sorted hturn
  exact ⟨hresult, htwins.files⟩

/-- The card has been remembered in a first turn, and has filled up before the next one. -/
theorem memo_is_unobservable_on_card :
    let s := (Session.start Card.empty).after .unset false
      [⟨id, Card.platform 29, .legacyRoot false⟩]
    let turn : Turn := ⟨fun _ => Card.crowded, Card.platform 19, .full none true⟩
    s.memo = some Card.site ∧
      (turn.take .unset false s).1 = (turn.take .unset false (.start s.files)).1 := by
  intro s turn
  have hone : ∀ t ∈ [⟨id, Card.platform 29, .legacyRoot false⟩] ++ [turn],
      t.platform.defaultRoot = .ok (some Card.site.root) := by
    simp [turn, Card.platform]
  exact ⟨rfl, (memo_is_unobservable hone).1⟩

end BackupLocator
