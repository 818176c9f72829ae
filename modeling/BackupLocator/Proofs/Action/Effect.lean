import BackupLocator.Proofs.Action

/-!
# Effects

The effect of an action on a session: its result, the files and the memo behind it, and the paths
that it may check. Every check in the journal is one that the files bear out. Effects compose as
actions do.
-/

namespace BackupLocator

namespace Action

variable {α β : Type}

/-- On a session an action gives a result, and leaves these files and this memo behind. It checks no
other paths than the ones given, and what it notes of a check is what the files say. -/
def Does (x : Action α) (s : Session) (result : Except Failure α) (files : FileSystem)
    (memo : Option Site) (paths : List Path) : Prop :=
  ∃ events, x.run s = (result, ⟨files, memo, events ++ s.journal⟩) ∧
    ∀ path writable, .checked path writable ∈ events →
      path ∈ paths ∧ s.files.canWrite path = .ok writable

namespace Does

variable {x : Action α} {f : α → Action β} {s : Session} {a : α} {e : Failure}
  {result : Except Failure α} {result' : Except Failure β} {files files' : FileSystem}
  {memo memo' : Option Site} {paths paths' : List Path}

theorem pure (a : α) (s : Session) : (pure a : Action α).Does s (.ok a) s.files s.memo [] :=
  ⟨[], rfl, by simp⟩

theorem fail (e : Failure) (s : Session) :
    (fail e : Action α).Does s (.error e) s.files s.memo [] :=
  ⟨[], rfl, by simp⟩

theorem ofExcept (result : Except Failure α) (s : Session) :
    (ofExcept result).Does s result s.files s.memo [] := by
  cases result with
  | ok a => exact .pure a s
  | error e => exact .fail e s

/-- What is recorded without a check. -/
theorem record {event : Event} (h : ∀ path writable, event ≠ .checked path writable)
    (s : Session) : (record event).Does s (.ok ()) s.files s.memo [] := by
  refine ⟨[event], rfl, ?_⟩
  intro path writable hmem
  exact absurd (List.mem_singleton.mp hmem).symm (h path writable)

theorem note (level : Level) (component : Component) (text : String) (s : Session) :
    (note level component text).Does s (.ok ()) s.files s.memo [] :=
  .record (by simp) s

theorem canWrite (path : Path) (s : Session) :
    (canWrite path).Does s (s.files.canWrite path) s.files s.memo [path] := by
  unfold Does Action.canWrite run
  dsimp only
  cases h : s.files.canWrite path with
  | ok writable =>
    refine ⟨[.checked path writable], rfl, ?_⟩
    intro path' writable' hmem
    obtain ⟨rfl, rfl⟩ : path' = path ∧ writable' = writable := by simpa using hmem
    exact ⟨List.mem_singleton_self _, h⟩
  | error e => exact ⟨[], rfl, by simp⟩

theorem isDirectory (path : Path) (s : Session) :
    (isDirectory path).Does s (s.files.isDirectory path) s.files s.memo [] :=
  ⟨[], rfl, by simp⟩

theorem askExternalRoots (p : Platform) (s : Session) :
    (askExternalRoots p).Does s (p.externalRoots s.files) s.files s.memo [] :=
  ⟨[.externalRoots], rfl, by simp⟩

theorem makeDirectory (path : Path) (parents existOk : Bool) (s : Session) :
    (makeDirectory path parents existOk).Does s (s.files.makeDirectory path parents existOk).1
      (s.files.makeDirectory path parents existOk).2 s.memo [] :=
  ⟨[.noted _], rfl, by simp⟩

theorem attempt (h : x.Does s result files memo paths) :
    x.attempt.Does s (.ok result) files memo paths := by
  obtain ⟨events, hrun, hchecks⟩ := h
  exact ⟨events, by rw [run_attempt, hrun], hchecks⟩

theorem mono (h : x.Does s result files memo paths) (hsub : paths ⊆ paths') :
    x.Does s result files memo paths' := by
  obtain ⟨events, hrun, hchecks⟩ := h
  refine ⟨events, hrun, ?_⟩
  intro path writable hmem
  obtain ⟨hpath, hsays⟩ := hchecks path writable hmem
  exact ⟨hsub hpath, hsays⟩

/-! ## Two actions in a row -/

theorem bind_error (h : x.Does s (.error e) files memo paths) :
    (x >>= f).Does s (.error e) files memo paths := by
  obtain ⟨events, hrun, hchecks⟩ := h
  exact ⟨events, run_bind_error hrun, hchecks⟩

/-- The first action leaves the files alone, so the checks of the second one are made in them. -/
theorem bind (hx : x.Does s (.ok a) s.files memo paths)
    (hf : ∀ journal, (f a).Does ⟨s.files, memo, journal⟩ result' files' memo' paths') :
    (x >>= f).Does s result' files' memo' (paths ++ paths') := by
  obtain ⟨events, hrun, hchecks⟩ := hx
  obtain ⟨events', hrun', hchecks'⟩ := hf (events ++ s.journal)
  refine ⟨events' ++ events, ?_, ?_⟩
  · rw [run_bind_ok hrun, hrun', List.append_assoc]
  · intro path writable hmem
    rcases List.mem_append.mp hmem with hlater | hbefore
    · obtain ⟨hpath, hsays⟩ := hchecks' path writable hlater
      exact ⟨List.mem_append_right _ hpath, hsays⟩
    · obtain ⟨hpath, hsays⟩ := hchecks path writable hbefore
      exact ⟨List.mem_append_left _ hpath, hsays⟩

/-- The second action checks nothing, so it does not matter in which files it would. -/
theorem bind_unchecked (hx : x.Does s (.ok a) files memo paths)
    (hf : ∀ journal, (f a).Does ⟨files, memo, journal⟩ result' files' memo' []) :
    (x >>= f).Does s result' files' memo' paths := by
  obtain ⟨events, hrun, hchecks⟩ := hx
  obtain ⟨events', hrun', hchecks'⟩ := hf (events ++ s.journal)
  refine ⟨events' ++ events, ?_, ?_⟩
  · rw [run_bind_ok hrun, hrun', List.append_assoc]
  · intro path writable hmem
    rcases List.mem_append.mp hmem with hlater | hbefore
    · exact absurd (hchecks' path writable hlater).1 List.not_mem_nil
    · exact hchecks path writable hbefore

/-- Both actions leave the files and the memo alone, so their results are put together as values. -/
theorem bind_reads (hx : x.Does s result s.files s.memo paths) {g : α → Except Failure β}
    (hf : ∀ a journal, (f a).Does ⟨s.files, s.memo, journal⟩ (g a) s.files s.memo []) :
    (x >>= f).Does s (result >>= g) s.files s.memo paths := by
  cases result with
  | ok a => exact hx.bind_unchecked (hf a)
  | error e => exact hx.bind_error

theorem askDescription (p : Platform) (volume : String) (s : Session) :
    (askDescription p volume).Does s (p.description volume) s.files s.memo [] :=
  (record (by simp) s).bind_unchecked fun journal =>
    .ofExcept (p.description volume) ⟨s.files, s.memo, journal⟩

theorem noteFailure (e : Failure) (s : Session) :
    (noteFailure e).Does s (.ok ()) s.files s.memo [] := by
  unfold Action.noteFailure
  split
  · split
    · exact .note _ _ _ s
    · exact .pure () s
  · exact .pure () s

theorem askHandlePath (p : Platform) (handle : String) (s : Session) :
    (askHandlePath p handle).Does s (p.handlePath s.files handle) s.files s.memo [] := by
  unfold Does Action.askHandlePath run
  dsimp only
  cases p.handlePath s.files handle with
  | ok path => exact ⟨[.handlePath handle], rfl, by simp⟩
  | error e =>
    -- The failure is noted behind the question.
    have hnoted : (do Action.noteFailure e; Action.fail e : Action Path).Does
        ⟨s.files, s.memo, .handlePath handle :: s.journal⟩ (.error e) s.files s.memo [] :=
      (noteFailure e _).bind_unchecked fun journal => fail e ⟨s.files, s.memo, journal⟩
    obtain ⟨events, hrun, hchecks⟩ := hnoted
    refine ⟨events ++ [.handlePath handle], ?_, ?_⟩
    · rw [List.append_assoc]
      exact hrun
    · intro path writable hmem
      rcases List.mem_append.mp hmem with hevents | hasked
      · exact hchecks path writable hevents
      · simp at hasked

/-- A value is looked up for what an action gives. -/
theorem bind_ofExcept (h : x.Does s result s.files memo paths) (g : α → Except Failure β) :
    (x >>= fun a => Action.ofExcept (g a)).Does s (result.bind g) s.files memo paths := by
  cases result with
  | ok a => exact h.bind_unchecked fun journal => .ofExcept (g a) ⟨s.files, memo, journal⟩
  | error e => exact h.bind_error

theorem map (h : x.Does s result files memo paths) (g : α → β) :
    (g <$> x).Does s (result.map g) files memo paths := by
  rw [map_eq_pure_bind]
  cases result with
  | ok a => exact h.bind_unchecked fun journal => .pure (g a) ⟨files, memo, journal⟩
  | error e => exact h.bind_error

/-! ## What an effect says about a run -/

theorem result_eq (h : x.Does s result files memo paths) : (x.run s).1 = result := by
  obtain ⟨events, hrun, -⟩ := h
  rw [hrun]

theorem files_eq (h : x.Does s result files memo paths) : (x.run s).2.files = files := by
  obtain ⟨events, hrun, -⟩ := h
  rw [hrun]

theorem memo_eq (h : x.Does s result files memo paths) : (x.run s).2.memo = memo := by
  obtain ⟨events, hrun, -⟩ := h
  rw [hrun]

theorem of_run {s' : Session} {outcome : Except Failure α} (hrun : x.run s = (outcome, s'))
    (h : x.Does s result files memo paths) :
    outcome = result ∧ s'.files = files ∧ s'.memo = memo := by
  obtain ⟨hresult, hfiles⟩ := And.intro h.result_eq h.files_eq
  have hmemo := h.memo_eq
  rw [hrun] at hresult hfiles hmemo
  exact ⟨hresult, hfiles, hmemo⟩

end Does

end Action

/-! ## Checks since a session -/

/-- Since a session a path has been checked and found not writable. -/
def Session.RefusedSince (s s' : Session) (path : Path) : Prop :=
  ∃ events, s'.journal = events ++ s.journal ∧ .checked path false ∈ events

theorem Action.Does.of_refusedSince {α : Type} {x : Action α} {s : Session}
    {result : Except Failure α} {files : FileSystem} {memo : Option Site} {paths : List Path}
    (h : x.Does s result files memo paths) {path : Path}
    (hrefused : s.RefusedSince (x.run s).2 path) :
    path ∈ paths ∧ s.files.canWrite path = .ok false := by
  obtain ⟨events, hrun, hchecks⟩ := h
  obtain ⟨events', hjournal, hmem⟩ := hrefused
  rw [hrun] at hjournal
  obtain rfl : events = events' := List.append_cancel_right hjournal
  exact hchecks path false hmem

end BackupLocator
