import BackupLocator.Proofs.CommandLine.Resolve
import BackupLocator.Proofs.Terminal

/-!
# Directories described as text

A directory is described in lines with markup, into which its path and the description of its root
are put as they are. So they are printed as they are if and only if nothing in them is markup, and
the directory has been made whether the lines can be printed or not.
-/

namespace BackupLocator.CommandLine

open Terminal Terminal.Markup

/-! ## Good news -/

/-- The pieces of a text behind the mark of good news. -/
theorem pieces_goodMark (s : String) :
    pieces (goodMark ++ s).toList =
      .tag green none :: .text ['✓'] :: .tag ('/' :: green) none ::
        piecesFrom (s.toList.length + 14) [] (' ' :: s.toList) := by
  have hmark : goodMark.toList = '[' :: green ++ ']' :: '✓' :: '[' :: '/' :: green ++ [']', ' '] :=
    rfl
  rw [String.toList_append, hmark]
  with_unfolding_all rfl

/-- The mark is shown as a check mark in green. -/
theorem read_goodMark (s : String) :
    Markup.read (goodMark ++ s).toList =
      (readPieces 1 [] (piecesFrom (s.toList.length + 14) [] (' ' :: s.toList))).map fun t =>
        ⟨'✓' :: t.text, ⟨0, 1, green⟩ :: t.stretches⟩ := by
  have htrim : Text.trim Text.isBlank green = green := by decide +kernel
  rw [Markup.read, pieces_goodMark]
  exact readPieces_styled normal_green htrim (by decide) (by simp [green]) (by decide) 0 [] ['✓'] _

/-- What stands behind the mark is printed as it is if and only if it is plain. -/
theorem goodMark_printsIff (s : String) :
    PrintsIff (IsPlain s.toList) (printed (goodMark ++ s)) ("✓ " ++ s) := by
  have hread := read_goodMark s
  have hlength : (' ' :: s.toList).length ≤ s.toList.length + 14 := by
    rw [List.length_cons]
    omega
  have hwhole : String.ofList (['✓'] ++ ' ' :: s.toList) = "✓ " ++ s := by
    rw [← String.toList_inj, String.toList_ofList, String.toList_append]
    rfl
  have hblank : IsPlain ([' '] ++ s.toList) ↔ IsPlain s.toList := isPlain_append_iff (by decide)
  rw [← hwhole]
  refine (printsIff_of_read ['✓'] (' ' :: s.toList) hlength (by decide) ?_ ?_).congr hblank
  · intro t ht
    rw [hread] at ht
    obtain ⟨behind, hbehind, rfl⟩ := Failure.map_eq_ok_iff.mp ht
    rw [← text_of_readPieces hbehind]
    rfl
  · intro hp
    have hpiece := piecesFrom_of_not_holdsTag hlength hp.tag []
    rw [hread, hpiece, readPieces_textPiece]
    refine ⟨_, rfl, fun stretch hstretch => ?_⟩
    obtain rfl := List.mem_singleton.mp hstretch
    exact green_isUsable

/-! ## Lines -/

theorem printLines_nil_printsIff : PrintsIff True (printLines []) "" := by
  refine ⟨fun _ => rfl, fun text htext => ?_⟩
  obtain rfl := Except.ok.inj htext
  exact ⟨by decide, fun _ => .of_kept trivial _⟩

/-- Lines are printed one below the other. -/
theorem printLines_cons_printsIff {p q : Prop} {line s s' : String} {lines : List String}
    (h : PrintsIff p (printed line) s) (h' : PrintsIff q (printLines lines) s') :
    PrintsIff (p ∧ q) (printLines (line :: lines)) (s ++ "\n" ++ s') := by
  constructor
  · rintro ⟨hp, hq⟩
    rw [printLines, h.plain hp, Failure.ok_bind, h'.plain hq]
    rfl
  · intro text htext
    obtain ⟨first, hfirst, htext⟩ := Failure.bind_eq_ok_iff.mp htext
    obtain ⟨rest, hrest, htext⟩ := Failure.bind_eq_ok_iff.mp htext
    obtain rfl := Except.ok.inj htext
    obtain ⟨htab, hkeeps⟩ := h.keeps first hfirst
    obtain ⟨htab', hkeeps'⟩ := h'.keeps rest hrest
    simp only [String.toList_append, List.mem_append, not_or]
    refine ⟨⟨⟨htab, by decide⟩, htab'⟩, fun ⟨⟨hs, _⟩, hs'⟩ => ?_⟩
    have hparts := (hkeeps hs).append ((hkeeps' hs').append_left ['\n'])
    simpa using hparts

/-! ## Directories -/

/-- What describes a directory whose root has a description, in plain text. -/
def verbatimText (d : ResolvedDirectory) (description : String) : String :=
  "✓ " ++ d.path.text ++ "\n" ++ ("  Storage model: " ++ d.model.name ++ "\n" ++
    if description = "" then "" else "  Volume: " ++ description ++ "\n")

theorem model_printsIff (model : StorageModel) :
    PrintsIff True (printed ("  Storage model: " ++ model.name))
      ("  Storage model: " ++ model.name) := by
  have hfront : isFront "  Storage model: ".toList = true := by
    apply holds_toList_ofList (isFront · = true)
    decide +kernel
  have hname : isOrdinary model.name.toList = true := by
    cases model <;>
    · apply holds_toList_ofList (isOrdinary · = true)
      decide +kernel
  have hline := printed_printsIff ("  Storage model: " ++ model.name)
  refine hline.congr (iff_true_intro ?_)
  rw [String.toList_append, isPlain_append_iff hfront]
  exact isPlain_of_isOrdinary hname

theorem volume_printsIff (description : String) :
    PrintsIff (IsPlain description.toList) (printed ("  Volume: " ++ description))
      ("  Volume: " ++ description) := by
  have hfront : isFront "  Volume: ".toList = true := by
    apply holds_toList_ofList (isFront · = true)
    decide +kernel
  have hline := printed_printsIff ("  Volume: " ++ description)
  rwa [String.toList_append, isPlain_append_iff hfront] at hline

/-- A directory is described in plain text if and only if nothing in its path and in the
description of its root is markup. -/
theorem directoryText_printsIff {d : ResolvedDirectory} {description : String}
    (h : d.site.description = .str description) :
    PrintsIff (IsPlain d.path.text.toList ∧ IsPlain description.toList) (directoryText d false)
      (verbatimText d description) := by
  have hpath := goodMark_printsIff d.path.text
  have hmodel := model_printsIff d.model
  rw [directoryText, if_neg Bool.false_ne_true, directoryLines, h, verbatimText]
  by_cases hempty : description = ""
  · subst hempty
    have hlines := printLines_cons_printsIff hpath
      (printLines_cons_printsIff hmodel printLines_nil_printsIff)
    have hnil : IsPlain [] := isPlain_of_isOrdinary rfl
    exact hlines.congr (by simp [hnil])
  · have hlines := printLines_cons_printsIff hpath (printLines_cons_printsIff hmodel
      (printLines_cons_printsIff (volume_printsIff description) printLines_nil_printsIff))
    rw [if_pos (Json.truthy_str.mpr hempty), if_neg hempty, Json.shown, String.ofList_toList]
    simpa using hlines

/-! ## Runs -/

variable {env : Environment} {fs : FileSystem} {words : List String} {i : Invocation} {c : Config}
  {verbose : Bool} {target : Target} {handle : Option String} {removable : Option Bool}

/-- Where a directory is given, a text is printed if and only if it describes the directory, and
either way the directory has been made. -/
theorem runCommand_prints_iff {d : ResolvedDirectory} {s : Session}
    (h : (targetDirectory c target handle (removable.getD c.prefersRemovable)).run (.start fs) =
      (.ok d, s)) (text : String) :
    let out := runCommand c fs verbose (.resolve target handle removable false)
    ((∃ errors, out.1 = .finished ⟨0, .text text, errors⟩) ↔ directoryText d false = .ok text) ∧
      out.2 = s.files := by
  intro out
  cases htext : directoryText d false with
  | ok described =>
    have hout : out = _ := runCommand_of_ok h htext
    simp [hout]
  | error e =>
    have hout : out = _ := runCommand_of_directoryText_error h htext
    simp [hout]

/-- Where the operation gives a directory, the command prints what describes it as it is, and ends
well, if and only if nothing in the path and in the description of the root is markup. Either way
it leaves the files of the operation. -/
theorem run_resolve_shows_iff (hwords : readInvocation words = .ok i)
    (hconfig : Config.ofSources env fs i.file i.overrides = .ok c)
    (hcommand : readCommand i.command i.words = .ok (.resolve target handle removable false))
    (hsources : Config.AreWellTyped env fs i.file) {d : ResolvedDirectory} {s : Session}
    (hcall : ((target.operation handle (removable.getD c.prefersRemovable)).perform
      (resolverOf c)).run (.start fs) = (.ok (.directory d), s)) :
    let out := run env fs words
    ∃ description, d.site.description = .str description ∧
      ((∃ errors, out.1 = .finished ⟨0, .text (verbatimText d description), errors⟩) ↔
        IsPlain d.path.text.toList ∧ IsPlain description.toList) ∧
      out.2 = s.files := by
  intro out
  have hout : out = runCommand c fs i.verbose (.resolve target handle removable false) :=
    run_eq_runCommand hwords hconfig hcommand
  have hrun : (targetDirectory c target handle (removable.getD c.prefersRemovable)).run
      (.start fs) = (.ok d, s) := by
    rw [target.run_operation] at hcall
    obtain ⟨hanswer, hsession⟩ := Prod.mk.inj hcall
    obtain ⟨d', hd', hsame⟩ := Failure.map_eq_ok_iff.mp hanswer
    exact Prod.ext (hd'.trans (congrArg _ (Answer.directory.inj hsame))) hsession
  have htyped : c.IsWellTyped := hsources.ofSources hconfig
  obtain ⟨description, hdescription⟩ :=
    (Operation.isDescribed_of_success htyped (by simp [Session.start]) hcall).description
  have hprints := directoryText_printsIff hdescription
  obtain ⟨hshows, hfiles⟩ := runCommand_prints_iff hrun (verbatimText d description)
  rw [hout]
  exact ⟨description, hdescription, hshows.trans hprints.eq_iff, hfiles⟩

/-- The place of the older backups on the card is reported as it is. -/
theorem run_resolve_shows_iff_on_card :
    let text := "✓ /sdcard/Signal/Backups\n  Storage model: legacy\n  Volume: Internal storage\n"
    ∃ errors, (run cardSet Card.empty ["resolve", "legacy", "--internal"]).1 =
      .finished ⟨0, .text text, errors⟩ := by
  intro text
  have hwords : readInvocation ["resolve", "legacy", "--internal"] =
      .ok ⟨none, ⟨none, none⟩, false, .resolve, ["legacy", "--internal"]⟩ := rfl
  have hcommand : readCommand .resolve ["legacy", "--internal"] =
      .ok (.resolve .legacy none (some false) false) := rfl
  let c : Config := { Config.default with storagePlace := .path Card.path }
  have hconfig : Config.ofSources cardSet Card.empty none ⟨none, none⟩ = .ok c := rfl
  have hsources : Config.AreWellTyped cardSet Card.empty none := by
    rintro file base (⟨⟨⟩, -⟩ | ⟨-, hfile, -⟩)
    contradiction
  obtain ⟨d, s, hcall, hpath, hmodel, hstored⟩ :
      ∃ d s, ((Target.legacy.operation none false).perform (resolverOf c)).run
        (.start Card.empty) = (.ok (.directory d), s) ∧ d.path.text = "/sdcard/Signal/Backups" ∧
          d.model = .legacy ∧ d.site.description = .str "Internal storage" :=
    ⟨_, _, rfl, rfl, rfl, rfl⟩
  obtain ⟨description, hdescription, hshows, -⟩ :=
    run_resolve_shows_iff hwords hconfig hcommand hsources hcall
  obtain rfl := Json.str.inj (hstored.symm.trans hdescription)
  have hpathPlain : IsPlain "/sdcard/Signal/Backups".toList := by
    apply isPlain_of_isOrdinary
    apply holds_toList_ofList (isOrdinary · = true)
    decide +kernel
  have hstoragePlain : IsPlain "Internal storage".toList := by
    apply isPlain_of_isOrdinary
    apply holds_toList_ofList (isOrdinary · = true)
    decide +kernel
  have hverbatim : verbatimText d "Internal storage" = text := by
    rw [verbatimText, hpath, hmodel]
    decide +kernel
  rw [← hverbatim]
  exact hshows.mpr ⟨hpath ▸ hpathPlain, hstoragePlain⟩

/-- An environment that names a directory with brackets in its name as the default storage. -/
def bracketSet : Environment := Config.homeSet.set Config.placeVariable (some "/sd[card]")

/-- What stands in brackets in the name of the default storage is taken for a tag, so the directory
is made and is not reported. -/
theorem run_resolve_hides_brackets :
    let fs : FileSystem := { FileSystem.empty with entries := [(["sd[card]"], .directory)] }
    let text := "✓ /sd[card]/Signal/Backups\n  Storage model: legacy\n  Volume: Internal storage\n"
    let out := run bracketSet fs ["resolve", "legacy", "--internal"]
    out.2.isDirectory (.ofText "/sd[card]/Signal/Backups") = .ok true ∧
      ¬∃ errors, out.1 = .finished ⟨0, .text text, errors⟩ := by
  intro fs text out
  let c : Config := { Config.default with storagePlace := .path (.ofText "/sd[card]") }
  have hconfig : Config.ofSources bracketSet fs none ⟨none, none⟩ = .ok c := rfl
  have hout : out = runCommand c fs false (.resolve .legacy none (some false) false) :=
    run_eq_runCommand (i := ⟨none, ⟨none, none⟩, false, .resolve, ["legacy", "--internal"]⟩) rfl
      hconfig rfl
  obtain ⟨d, s, hrun, hpath, hmodel, hstored, hthere⟩ :
      ∃ d s, (targetDirectory c .legacy none ((some false).getD c.prefersRemovable)).run
        (.start fs) = (.ok d, s) ∧ d.path.text = "/sd[card]/Signal/Backups" ∧
          d.model = .legacy ∧ d.site.description = .str "Internal storage" ∧
            s.files.isDirectory (.ofText "/sd[card]/Signal/Backups") = .ok true :=
    ⟨_, _, rfl, rfl, rfl, rfl, rfl⟩
  obtain ⟨hprints, hfiles⟩ : ((∃ errors, out.1 = .finished ⟨0, .text text, errors⟩) ↔
      directoryText d false = .ok text) ∧ out.2 = s.files := by
    rw [hout]
    exact runCommand_prints_iff hrun text
  have hverbatim : verbatimText d "Internal storage" = text := by
    rw [verbatimText, hpath, hmodel]
    decide +kernel
  have htag : HoldsTag "/sd[card]/Signal/Backups".toList := by
    apply holds_toList_ofList HoldsTag
    refine ⟨['c', 'a', 'r', 'd'], ⟨⟨'c', ['a', 'r', 'd'], rfl, ?_⟩, ?_⟩, ['/', 's', 'd'], _, rfl⟩
    · decide
    · simp
  refine ⟨by rw [hfiles, hthere], ?_⟩
  rw [hprints, ← hverbatim, (directoryText_printsIff hstored).eq_iff]
  exact fun hplain => hplain.1.tag (hpath ▸ htag)

end BackupLocator.CommandLine
