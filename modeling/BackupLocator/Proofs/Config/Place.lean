import BackupLocator.Config.Environment
import BackupLocator.Proofs.Config.Loading
import BackupLocator.Proofs.Json.RoundTrip

/-!
# Three ways to say where the default storage lies

A text for the place of the default storage comes from the one who makes a configuration, from a
file, or from the environment. The first and the last read a `~` at its beginning as a home
directory. A file is read as it is written, so it says the same only where there is no such `~`.
-/

namespace BackupLocator

/-! ## Home directories -/

/-- Variables other than the one for the home directory do not matter to a `~`. -/
theorem Environment.homeOf_set {env : Environment} {name : String} (h : "HOME" ≠ name)
    (text : Option String) (account : String) :
    (env.set name text).homeOf account = env.homeOf account := by
  rw [homeOf, get?_set_ne env h]
  rfl

namespace Path

theorem ofHomeText_set {env : Environment} {name : String} (h : "HOME" ≠ name)
    (text : Option String) (s : String) : ofHomeText (env.set name text) s = ofHomeText env s := by
  simp only [ofHomeText, expandHome, Environment.homeOf_set h]

/-- A path begins at a home directory: it is relative, and its first segment begins with `~`. -/
def BeginsAtHome (p : Path) : Prop :=
  p.isAbsolute = false ∧ ∃ name, p.parts.head?.map String.toList = some ('~' :: name)

theorem ofHomeText_of_not_beginsAtHome {env : Environment} {s : String}
    (h : ¬(ofText s).BeginsAtHome) : ofHomeText env s = .ok (ofText s) := by
  unfold ofHomeText expandHome
  split
  · rename_i habsolute hname
    exact absurd ⟨habsolute, _, hname⟩ h
  · rfl

end Path

namespace Config

variable {env : Environment} {s : String} {p : Path}

/-! ## The environment -/

theorem exists_withVariable {name : String} {say : Config → String → Except Failure Config}
    {c : Config} (h : ∀ text, env.nonEmpty? name = some text → ∃ c', say c text = .ok c') :
    ∃ c', withVariable env name say c = .ok c' := by
  unfold withVariable
  split
  · rename_i text htext
    exact h text htext
  · exact ⟨c, rfl⟩

/-- The version of the platform is not set, or it is set to a whole number. -/
def IsVersionReadable (env : Environment) : Prop :=
  ∀ text, env.nonEmpty? versionVariable = some text →
    ∃ n, Text.WholeNumber.read? text.toList = some n

/-- The environment says the place with its `~` read as a home directory. -/
theorem ofEnvironment_set_place (hs : s ≠ "") (hp : Path.ofHomeText env s = .ok p)
    (hversion : IsVersionReadable env) :
    ∃ c, ofEnvironment (env.set placeVariable (some s)) = .ok c ∧ c.storagePlace = .path p := by
  have hset : (env.set placeVariable (some s)).nonEmpty? placeVariable = some s := by
    simp [Environment.nonEmpty?, Environment.get?_set_self, hs]
  have hversion' : (env.set placeVariable (some s)).nonEmpty? versionVariable =
      env.nonEmpty? versionVariable := by
    rw [Environment.nonEmpty?, Environment.get?_set_ne env (by decide)]
    rfl
  have hplace : Path.ofHomeText (env.set placeVariable (some s)) s = .ok p := by
    rw [Path.ofHomeText_set (by decide), hp]
  obtain ⟨c₁, h₁⟩ : ∃ c₁, withVariable (env.set placeVariable (some s)) versionVariable sayVersion
      default = .ok c₁ := by
    refine exists_withVariable fun text htext => ?_
    obtain ⟨n, hn⟩ := hversion text (hversion' ▸ htext)
    exact ⟨_, by rw [sayVersion, hn]⟩
  obtain ⟨c₂, h₂⟩ : ∃ c₂, withVariable (env.set placeVariable (some s)) packageVariable sayPackage
      c₁ = .ok c₂ := exists_withVariable fun text _ => ⟨_, rfl⟩
  obtain ⟨c₃, h₃⟩ : ∃ c₃, withVariable (env.set placeVariable (some s)) preferenceVariable
      sayPreference c₂ = .ok c₃ := exists_withVariable fun text _ => ⟨_, rfl⟩
  refine ⟨{ c₃ with storagePlace := .path p }, ?_, rfl⟩
  simp only [ofEnvironment, h₁, h₂, h₃, bind, Except.bind]
  rw [withVariable, hset]
  simp only [sayPlace, hplace, Except.map]

/-! ## Fields -/

/-- Fields have names of fields only, and say the place with a text. -/
structure SayPlace (fields : List (String × Json)) (s : String) : Prop where
  names : areFieldNames fields = true
  place : Json.lookup placeField fields = some (.str s)

variable {fields : List (String × Json)}

/-- A new configuration has the place with its `~` read as a home directory. -/
theorem SayPlace.ofFields (h : SayPlace fields s) (hp : Path.ofHomeText env s = .ok p) :
    ∃ c, ofFields env fields = .ok c ∧ c.storagePlace = .path p := by
  refine ⟨{ withFields fields with storagePlace := .path p }, ?_, rfl⟩
  simp only [Config.ofFields, h.names, if_true, h.place, Place.ofField, hp, Except.map]

/-- A file has the place as it is written. -/
theorem SayPlace.ofJson (h : SayPlace fields s) :
    ∃ c, ofJson (.obj fields) = .ok c ∧ c.storagePlace = .path (.ofText s) := by
  refine ⟨{ withFields fields with storagePlace := .path (.ofText s) }, ?_, rfl⟩
  simp only [Config.ofJson, h.names, if_true, h.place, placeOfFile, Except.map]

/-! ## All three -/

/-- The three ways agree on a text if and only if its path stays as it is written when a `~` at its
beginning is read as a home directory; and it does where there is no `~`. -/
theorem places_agree_iff {fs : FileSystem} {file : Path} {made stored : List (String × Json)}
    (hs : s ≠ "") (hp : Path.ofHomeText env s = .ok p) (hversion : IsVersionReadable env)
    (hmade : SayPlace made s) (hstored : SayPlace stored s) (hfile : Holds fs file (.obj stored)) :
    ∃ c c' c'' : Config, ofFields env made = .ok c ∧
      ofEnvironment (env.set placeVariable (some s)) = .ok c' ∧ load fs file = .ok c'' ∧
      c.storagePlace = .path p ∧ c'.storagePlace = .path p ∧
      (c''.storagePlace = .path p ↔ Path.ofText s = p) ∧
      (¬(Path.ofText s).BeginsAtHome → Path.ofText s = p) := by
  obtain ⟨c, hc, hplace⟩ := hmade.ofFields hp
  obtain ⟨c', hc', hplace'⟩ := ofEnvironment_set_place hs hp hversion
  obtain ⟨c'', hc'', hplace''⟩ := hstored.ofJson
  refine ⟨c, c', c'', hc, hc', by rw [hfile.load_eq, hc''], hplace, hplace', ?_, fun hplain => ?_⟩
  · rw [hplace'', Place.path.injEq]
  · rw [Path.ofHomeText_of_not_beginsAtHome hplain] at hp
    exact Except.ok.inj hp

/-- An environment with a home directory and nothing else. -/
def homeSet : Environment := ⟨[("HOME", "/home/me")], [], "/root"⟩

/-- The field for the place alone. -/
def placeOnly (s : String) : List (String × Json) := [(placeField, .str s)]

theorem placeOnly_says (s : String) : SayPlace (placeOnly s) s := ⟨rfl, rfl⟩

theorem holds_placeOnly (s : String) :
    Holds (holding (Json.render .file (.obj (placeOnly s)))) holdingFile (.obj (placeOnly s)) := by
  refine holds_holding ?_
  rw [Json.render, String.toList_ofList]
  exact Json.parse_write Json.Style.file_escapesControls rfl (decide_eq_true rfl)
    (show 1 ≤ Json.nestingLimit by decide)

theorem places_agree_on_card : ∃ c c' c'' : Config,
    ofFields homeSet (placeOnly "/mnt/card") = .ok c ∧
      ofEnvironment (homeSet.set placeVariable (some "/mnt/card")) = .ok c' ∧
      load (holding (Json.render .file (.obj (placeOnly "/mnt/card")))) holdingFile = .ok c'' ∧
      c.storagePlace = .path (.ofText "/mnt/card") ∧ c'.storagePlace = c.storagePlace ∧
      c''.storagePlace = c.storagePlace := by
  have hexpands : Path.ofHomeText homeSet "/mnt/card" = .ok (.ofText "/mnt/card") := rfl
  have hversion : IsVersionReadable homeSet := fun text h => by contradiction
  have hsay := placeOnly_says "/mnt/card"
  obtain ⟨c, c', c'', hc, hc', hc'', hplace, hplace', hplace'', -⟩ :=
    places_agree_iff (by decide) hexpands hversion hsay hsay (holds_placeOnly "/mnt/card")
  exact ⟨c, c', c'', hc, hc', hc'', hplace, hplace'.trans hplace.symm,
    (hplace''.mpr rfl).trans hplace.symm⟩

/-- A file that says `~` means a directory of that name, and the others mean the home directory. -/
theorem places_disagree_on_home :
    (ofFields homeSet (placeOnly "~/x")).map storagePlace = .ok (.path (.ofText "/home/me/x")) ∧
    (ofEnvironment (homeSet.set placeVariable (some "~/x"))).map storagePlace =
      .ok (.path (.ofText "/home/me/x")) ∧
    (load (holding (Json.render .file (.obj (placeOnly "~/x")))) holdingFile).map storagePlace =
      .ok (.path (.ofText "~/x")) ∧
    Path.ofText "~/x" ≠ Path.ofText "/home/me/x" := by
  refine ⟨rfl, rfl, ?_, by decide⟩
  rw [(holds_placeOnly "~/x").load_eq]
  rfl

end Config

end BackupLocator
