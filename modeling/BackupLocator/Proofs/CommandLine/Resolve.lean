import BackupLocator.CommandLine
import BackupLocator.Operation
import BackupLocator.Proofs.Config.Source
import BackupLocator.Proofs.Json.Controls
import BackupLocator.Proofs.Resolver.Described

/-!
# The command that finds a directory

The command asks a resolver made anew for one operation and reports what comes of it. So it ends
well exactly where the operation gives a directory, what it prints as JSON reads back as that
directory, and it leaves the files that the operation leaves.
-/

namespace BackupLocator

/-! ## Objects of texts -/

namespace Json

/-- The values of some fields are texts, as far as they are not null. -/
def AreTexts (fields : List (String × Json)) : Prop :=
  ∀ f ∈ fields, f.2 = .null ∨ f.2.IsText

namespace AreTexts

variable {fields : List (String × Json)} (h : AreTexts fields)
include h

theorem isPlain (hnames : (fields.map Prod.fst).Nodup) : (obj fields).isPlain = true := by
  have hvalues : havePlainValues fields = true := by
    refine havePlainValues_iff.mpr fun f hf => ?_
    rcases h f hf with hnull | ⟨s, htext⟩
    · rw [hnull]
      rfl
    · rw [htext]
      rfl
  simp [Json.isPlain, hvalues, hnames]

theorem depth_le_one : (obj fields).depth ≤ 1 := by
  have hvalues : depthOfFields fields ≤ 0 := by
    refine depthOfFields_le_iff.mpr fun f hf => ?_
    rcases h f hf with hnull | ⟨s, htext⟩
    · rw [hnull]
      exact Nat.le_refl 0
    · rw [htext]
      exact Nat.le_refl 0
  exact Nat.succ_le_succ hvalues

/-- There are no whole numbers that could be too long. -/
theorem isWritable_and_hasShortNumbers :
    (obj fields).isWritable = true ∧ (obj fields).hasShortNumbers = true := by
  have hvalues : shortenedFields fields = fields ∧ haveShortValues fields = true := by
    induction fields with
    | nil => exact ⟨rfl, rfl⟩
    | cons f fields ih =>
      obtain ⟨hf, hfields⟩ := List.forall_mem_cons.mp h
      obtain ⟨hshortened, hshort⟩ := ih hfields
      obtain ⟨k, v⟩ := f
      rcases hf with rfl | ⟨s, rfl⟩
      · simp [shortenedFields, shortened, haveShortValues, hasShortNumbers, hshortened, hshort]
      · simp [shortenedFields, shortened, haveShortValues, hasShortNumbers, hshortened, hshort]
  exact ⟨decide_eq_true (congrArg obj hvalues.1), hvalues.2⟩

end AreTexts

end Json

/-! ## Reports of directories -/

namespace CommandLine

/-- A directory whose site is described is reported as JSON, and the text reads back. -/
theorem exists_directoryText {d : ResolvedDirectory} (h : d.site.IsDescribed) :
    ∃ text, directoryText d true = .ok text ∧ Json.parse text.toList = .ok (directoryJson d) := by
  obtain ⟨fields, hfields, htexts, hnames⟩ : ∃ fields, directoryJson d = .obj fields ∧
      Json.AreTexts fields ∧ (fields.map Prod.fst).Nodup := by
    have hnames : ["path", "root", "handle", "description", "category", "model"].Nodup := by decide
    refine ⟨_, rfl, ?_, hnames⟩
    simp only [Json.AreTexts, List.forall_mem_cons]
    refine ⟨.inr ⟨_, rfl⟩, .inr ⟨_, rfl⟩, h.handle, .inr h.description, ?_, .inr ⟨_, rfl⟩, by simp⟩
    cases d.category with
    | none => exact .inl rfl
    | some category => exact .inr ⟨_, rfl⟩
  rw [directoryText, if_pos rfl, hfields]
  have hplain := htexts.isPlain hnames
  have hdepth := htexts.depth_le_one
  obtain ⟨hwritable, hshort⟩ := htexts.isWritable_and_hasShortNumbers
  have hreportable : (Json.obj fields).isReportable = true := by
    rw [Json.isReportable, hshort, Bool.true_and, decide_eq_true_eq]
    exact Nat.le_trans hdepth (by decide)
  refine ⟨_, if_pos hreportable, ?_⟩
  rw [Terminal.echoed_render Json.Style.report_escapesControls hplain, String.toList_append,
    Json.render, String.toList_ofList]
  have hends : Json.EndsNumber ['\n'] := Json.endsNumber_cons (by decide) []
  exact Json.parse_write_append Json.Style.report_escapesControls hplain hwritable
    (Nat.le_trans hdepth (by decide)) hends rfl

/-! ## Failures -/

/-- A failure for which there is something to say is one of storage or of a handle. -/
theorem failureLines?_isSome_iff {e : Failure} :
    (failureLines? e).isSome = true ↔
      e.isOfStorage = true ∨ ∃ fault, e = .badHandle fault := by
  cases e <;> simp [failureLines?, Failure.isOfStorage, Failure.isUnavailable, Failure.isCreation]

/-- What is reported of a failure touches no files. The run ends with one where there are lines that
can be printed, and breaks off where there are not. -/
theorem run_reportFailure (e : Failure) (s : Session) :
    (∃ lines text, failureLines? e = some lines ∧ printLines lines = .ok text ∧
      (reportFailure e).run s = (.ok (1, .text text), s)) ∨
    (∀ lines text, failureLines? e = some lines → printLines lines ≠ .ok text) ∧
      ∃ e', (reportFailure e).run s = (.error e', s) := by
  unfold reportFailure
  cases failureLines? e with
  | none => exact .inr ⟨by simp, e, rfl⟩
  | some lines =>
    cases hprint : printLines lines with
    | ok text =>
      refine .inl ⟨lines, text, rfl, hprint, ?_⟩
      simp only [hprint]
      rfl
    | error e' =>
      refine .inr ⟨?_, e', ?_⟩
      · rintro _ text ⟨⟩
        simp [hprint]
      · simp only [hprint]
        rfl

/-! ## The command and the operation -/

/-- The operation that finds a target. -/
def Target.operation (handle : Option String) (prefer : Bool) : Target → Operation
  | .full => .full handle prefer
  | .plaintext => .plaintext handle prefer
  | .legacy => .legacy
  | .legacyRoot => .legacyRoot prefer

theorem Target.run_operation (c : Config) (target : Target) (handle : Option String)
    (prefer : Bool) (s : Session) :
    ((target.operation handle prefer).perform (resolverOf c)).run s =
      (((targetDirectory c target handle prefer).run s).1.map .directory,
        ((targetDirectory c target handle prefer).run s).2) := by
  have hmap (x : Action ResolvedDirectory) :
      (do return Answer.directory (← x)).run s = ((x.run s).1.map .directory, (x.run s).2) := by
    rw [Action.run_bind]
    rcases x.run s with ⟨_ | _, _⟩ <;> rfl
  cases target <;> exact hmap _

variable {env : Environment} {fs : FileSystem} {words : List String} {i : Invocation} {c : Config}
  {verbose asJson : Bool} {target : Target} {handle : Option String} {removable : Option Bool}

theorem run_eq_runCommand {command : Command} (hwords : readInvocation words = .ok i)
    (hconfig : Config.ofSources env fs i.file i.overrides = .ok c)
    (hcommand : readCommand i.command i.words = .ok command) :
    run env fs words = runCommand c fs i.verbose command := by
  simp only [run, hwords, hconfig, hcommand]

theorem run_resolve (s : Session) :
    (resolve c target handle removable asJson).run s =
      match (targetDirectory c target handle (removable.getD c.prefersRemovable)).run s with
      | (.ok d, s') => ((directoryText d asJson).map fun text => (0, .text text), s')
      | (.error e, s') => (reportFailure e).run s' := rfl

section

variable {s : Session}

/-- Where a directory is given, the command ends well with its text. -/
theorem runCommand_of_ok {d : ResolvedDirectory} {text : String}
    (h : (targetDirectory c target handle (removable.getD c.prefersRemovable)).run (.start fs) =
      (.ok d, s)) (htext : directoryText d asJson = .ok text) :
    runCommand c fs verbose (.resolve target handle removable asJson) =
      (.finished ⟨0, .text text, noteText verbose s.notes⟩, s.files) := by
  have hresolve : (resolve c target handle removable asJson).run (.start fs) =
      (.ok (0, .text text), s) := by
    rw [run_resolve, h]
    simp only [htext]
    rfl
  simp only [runCommand, perform, hresolve]

/-- Where the directory cannot be described, the command breaks off, and the files are what they are
with the directory made. -/
theorem runCommand_of_directoryText_error {d : ResolvedDirectory} {e : Failure}
    (h : (targetDirectory c target handle (removable.getD c.prefersRemovable)).run (.start fs) =
      (.ok d, s)) (htext : directoryText d asJson = .error e) :
    runCommand c fs verbose (.resolve target handle removable asJson) = (.crashed e, s.files) := by
  have hresolve : (resolve c target handle removable asJson).run (.start fs) = (.error e, s) := by
    rw [run_resolve, h]
    simp only [htext]
    rfl
  simp only [runCommand, perform, hresolve]

/-- Where none is given, it ends badly with the lines about the failure, or breaks off. -/
theorem runCommand_of_error (verbose asJson : Bool) {e : Failure}
    (h : (targetDirectory c target handle (removable.getD c.prefersRemovable)).run (.start fs) =
      (.error e, s)) :
    let out := runCommand c fs verbose (.resolve target handle removable asJson)
    out.1.exitCode = 1 ∧ out.2 = s.files ∧
      ∀ lines text, failureLines? e = some lines → printLines lines = .ok text →
        ∃ errors, out.1 = .finished ⟨1, .text text, errors⟩ := by
  intro out
  have hresolve : (resolve c target handle removable asJson).run (.start fs) =
      (reportFailure e).run s := by
    rw [run_resolve, h]
  have hout : out = runCommand c fs verbose (.resolve target handle removable asJson) := rfl
  rcases run_reportFailure e s with ⟨lines, text, hlines, hprint, hreport⟩ | ⟨hnone, e', hreport⟩
  · simp only [runCommand, perform, hresolve, hreport] at hout
    rw [hout]
    refine ⟨rfl, rfl, ?_⟩
    rintro lines' text' hlines' hprint'
    obtain rfl := Option.some.inj (hlines.symm.trans hlines')
    obtain rfl := Except.ok.inj (hprint.symm.trans hprint')
    exact ⟨_, rfl⟩
  · simp only [runCommand, perform, hresolve, hreport] at hout
    rw [hout]
    exact ⟨rfl, rfl, fun lines text hlines hprint => absurd hprint (hnone lines text hlines)⟩

end

/-- The command does what its operation does. It ends well if and only if the operation gives a
directory, and what it prints as JSON reads back as that directory. It ends badly where the
operation fails, and says why if it can where storage or a handle is to blame. Either way it leaves
the files of the operation. -/
theorem run_resolve_refines (hwords : readInvocation words = .ok i)
    (hconfig : Config.ofSources env fs i.file i.overrides = .ok c)
    (hcommand : readCommand i.command i.words = .ok (.resolve target handle removable true))
    (hsources : Config.AreWellTyped env fs i.file) :
    let op := target.operation handle (removable.getD c.prefersRemovable)
    let call := (op.perform (resolverOf c)).run (.start fs)
    let out := run env fs words
    (out.1.exitCode = 0 ↔ ∃ answer, call.1 = .ok answer) ∧
      (∀ answer, call.1 = .ok answer → ∃ d r, answer = .directory d ∧ out.1 = .finished r ∧
        Json.parse r.screen.toText.toList = .ok (directoryJson d)) ∧
      (∀ e, call.1 = .error e → out.1.exitCode = 1 ∧
        (e.isOfStorage = true ∨ (∃ fault, e = .badHandle fault) →
          ∃ lines, failureLines? e = some lines ∧ ∀ text, printLines lines = .ok text →
            ∃ errors, out.1 = .finished ⟨1, .text text, errors⟩)) ∧
      out.2 = call.2.files := by
  intro op call out
  have hout : out = runCommand c fs i.verbose (.resolve target handle removable true) :=
    run_eq_runCommand hwords hconfig hcommand
  have hoperation := target.run_operation c handle (removable.getD c.prefersRemovable) (.start fs)
  rcases hrun : (targetDirectory c target handle (removable.getD c.prefersRemovable)).run
    (.start fs) with ⟨e | d, s⟩
  · rw [hrun] at hoperation
    have hcall : call = (.error e, s) := hoperation
    obtain ⟨hexit, hfiles, hsays⟩ := runCommand_of_error i.verbose true hrun
    rw [← hout] at hexit hfiles hsays
    rw [hcall]
    refine ⟨by simp [hexit], by simp, ?_, hfiles⟩
    rintro _ ⟨⟩
    refine ⟨hexit, fun hstorage => ?_⟩
    obtain ⟨lines, hlines⟩ := Option.isSome_iff_exists.mp (failureLines?_isSome_iff.mpr hstorage)
    exact ⟨lines, hlines, fun text hprint => hsays lines text hlines hprint⟩
  · rw [hrun] at hoperation
    have hcall : call = (.ok (.directory d), s) := hoperation
    have htyped : c.IsWellTyped := hsources.ofSources hconfig
    have hdescribed : d.site.IsDescribed :=
      Operation.isDescribed_of_success htyped (by simp [Session.start]) hcall
    obtain ⟨text, htext, hparse⟩ := exists_directoryText hdescribed
    rw [runCommand_of_ok hrun htext] at hout
    rw [hcall, hout]
    refine ⟨by simp [Outcome.exitCode], ?_, by simp, rfl⟩
    rintro _ ⟨⟩
    exact ⟨d, _, rfl, rfl, hparse⟩

/-- An environment that names the card as the default storage. -/
def cardSet : Environment := Config.homeSet.set Config.placeVariable (some "/sdcard")

/-- The place of the older backups on the card is made, and reported. -/
theorem run_resolve_refines_on_card :
    let path : Path := .ofText "/sdcard/Signal/Backups"
    let out := run cardSet Card.empty ["resolve", "legacy", "--internal", "--json"]
    out.1.exitCode = 0 ∧ out.2.isDirectory path = .ok true ∧
      ∃ d r, d.path = path ∧ out.1 = .finished r ∧
        Json.parse r.screen.toText.toList = .ok (directoryJson d) := by
  intro path out
  have hwords : readInvocation ["resolve", "legacy", "--internal", "--json"] =
      .ok ⟨none, ⟨none, none⟩, false, .resolve, ["legacy", "--internal", "--json"]⟩ := rfl
  have hcommand : readCommand .resolve ["legacy", "--internal", "--json"] =
      .ok (.resolve .legacy none (some false) true) := rfl
  let c : Config := { Config.default with storagePlace := .path Card.path }
  have hconfig : Config.ofSources cardSet Card.empty none ⟨none, none⟩ = .ok c := rfl
  have hsources : Config.AreWellTyped cardSet Card.empty none := by
    rintro file base (⟨⟨⟩, -⟩ | ⟨-, hfile, -⟩)
    contradiction
  obtain ⟨d, s, hcall, hpath, hthere⟩ : ∃ d s, ((Target.legacy.operation none false).perform
      (resolverOf c)).run (.start Card.empty) = (.ok (.directory d), s) ∧ d.path = path ∧
        s.files.isDirectory path = .ok true := ⟨_, _, rfl, rfl, rfl⟩
  have hanswer := congrArg Prod.fst hcall
  obtain ⟨hexit, hprints, -, hfiles⟩ := run_resolve_refines hwords hconfig hcommand hsources
  obtain ⟨d, r, ⟨⟩, hfinished, hparse⟩ := hprints _ hanswer
  have hmade : out.2 = s.files := hfiles.trans (congrArg (·.2.files) hcall)
  exact ⟨hexit.mpr ⟨_, hanswer⟩, hmade ▸ hthere, d, r, hpath, hfinished, hparse⟩

end CommandLine

end BackupLocator
