import BackupLocator.Label
import BackupLocator.Proofs.Handle.Parts
import BackupLocator.Proofs.Platform.Handle

/-!
# Labels that are given

With the default template a label is put together from two texts, so nothing in them can be a fault:
braces in a description or in a name are shown as they are. What is left is the handle. It has a
label unless it is an address that cannot be read, and such an address holds a bracket or another
form of a delimiter.
-/

namespace BackupLocator

namespace Label

/-! ## The parts of a label -/

/-- The default template puts a blank between two texts, whatever they hold. -/
theorem fill_defaultTemplate (description name : String) :
    Template.fill [("description", .str description), ("name", .str name)] defaultTemplate =
      .ok (description ++ " " ++ name) := by
  have hfilled : Template.fillWithin [("description", .str description), ("name", .str name)]
      defaultTemplate.length 1 defaultTemplate.toList =
        .ok (description.toList ++ ' ' :: (name.toList ++ [])) := rfl
  rw [Template.fill, hfilled]
  simp [Except.map, String.append_assoc]

variable {describe : String → Except Failure Json} {handle id : String}

theorem ofHandle_of_isMalformed (template : Option String) (h : Handle.IsMalformed handle) :
    ofHandle describe template handle = .error .malformed := by
  rw [ofHandle, Handle.volumeAndLeaf, Handle.documentId_eq_error_iff.mpr ⟨h, rfl⟩]
  rfl

/-- Where the volume has no description, the label is the leaf. -/
theorem ofHandle_of_undescribed (template : Option String) (hid : Handle.documentId handle = .ok id)
    (h : describe (Handle.volumeTag id) = .ok .null) :
    ofHandle describe template handle = .ok (clean (Handle.leaf id)) := by
  rw [ofHandle, Handle.volumeAndLeaf_of_documentId hid]
  simp only [bind, Except.bind, h]
  rfl

/-- Where it has one, that stands in front of the leaf. -/
theorem ofHandle_of_described {text : String} (hid : Handle.documentId handle = .ok id)
    (h : describe (Handle.volumeTag id) = .ok (.str text)) :
    ofHandle describe none handle = .ok (text ++ " " ++ clean (Handle.leaf id)) := by
  rw [ofHandle, Handle.volumeAndLeaf_of_documentId hid]
  simp only [bind, Except.bind, h]
  exact fill_defaultTemplate text (clean (Handle.leaf id))

/-! ## Labels for configured volumes -/

/-- Among configured volumes a handle has a label if and only if it is not an address that cannot be
read; there is no other failure. A handle without brackets and other forms of delimiters always has
one. -/
theorem label_is_given_iff {c : Config} {volumes : List (List (String × Json))}
    (hvolumes : c.volumeEntries = .ok (volumes.map .obj))
    (htyped : ∀ fields ∈ volumes, IsVolume fields) (handle : String) :
    let label := ofHandle (Platform.ofConfig c).description none handle
    ((∃ text, label = .ok text) ↔ ¬Handle.IsMalformed handle) ∧
      (∀ e, label = .error e → e = .malformed) ∧
      ((∀ ch ∈ handle.toList, ¬Handle.IsSuspect ch) → ∃ text, label = .ok text) := by
  intro label
  have hfails (h : Handle.IsMalformed handle) : label = .error .malformed :=
    ofHandle_of_isMalformed none h
  have hgiven (h : ¬Handle.IsMalformed handle) : ∃ text, label = .ok text := by
    cases hid : Handle.documentId handle with
    | error e => exact absurd (Handle.documentId_eq_error_iff.mp hid).1 h
    | ok id =>
      rcases Platform.Local.description_eq hvolumes htyped (Handle.volumeTag id) with
        hnone | ⟨text, htext⟩
      · exact ⟨_, ofHandle_of_undescribed none hid hnone⟩
      · exact ⟨_, ofHandle_of_described hid htext⟩
  refine ⟨⟨?_, hgiven⟩, fun e he => ?_, fun hplain => hgiven (Handle.not_isMalformed hplain)⟩
  · rintro ⟨text, htext⟩ hmalformed
    simp [hfails hmalformed] at htext
  · by_cases hmalformed : Handle.IsMalformed handle
    · exact Except.error.inj (he.symm.trans (hfails hmalformed))
    · obtain ⟨text, htext⟩ := hgiven hmalformed
      simp [htext] at he

/-- The fields of a card that has a description. -/
def describedCard : List (String × Json) :=
  [("uuid", .str "AB12-34CD"), ("description", .str "SD Card")]

theorem describedCard_isVolume : IsVolume describedCard where
  uuid v h := ⟨_, by simpa [describedCard, Json.lookup] using h.symm⟩
  description v h := ⟨_, by simpa [describedCard, Json.lookup] using h.symm⟩
  path v h := by simp [describedCard, Json.lookup] at h
  removable v h := by simp [describedCard, Json.lookup] at h

/-- The configuration of that card. -/
def describedConfig : Config := { Config.default with volumes := .arr [.obj describedCard] }

/-- An address of a directory on the card. -/
theorem label_is_given_on_card :
    ∃ text, ofHandle (Platform.ofConfig describedConfig).description none
        "content://documents/tree/AB12-34CD%3ABackups" = .ok text ∧
      text = "SD Card Backups" := by
  have hvolumes : describedConfig.volumeEntries = .ok ([describedCard].map .obj) := rfl
  have htyped : ∀ fields ∈ [describedCard], IsVolume fields := by
    simpa using describedCard_isVolume
  have hpath : Handle.pathOfAddress? "content://documents/tree/AB12-34CD%3ABackups".toList =
      some "/tree/AB12-34CD%3ABackups".toList := rfl
  obtain ⟨text, htext⟩ := (label_is_given_iff hvolumes htyped _).1.mpr fun hmalformed =>
    absurd (hpath.symm.trans hmalformed.2) (by simp)
  have hid : Handle.documentId "content://documents/tree/AB12-34CD%3ABackups" =
      .ok "AB12-34CD:Backups" := by
    rw [Handle.documentId, if_pos (by decide), hpath]
    exact congrArg Except.ok (by decide +kernel)
  have hdescribed : (Platform.ofConfig describedConfig).description
      (Handle.volumeTag "AB12-34CD:Backups") = .ok (.str "SD Card") := rfl
  have hparts : "SD Card" ++ " " ++ clean (Handle.leaf "AB12-34CD:Backups") =
      "SD Card Backups" := by decide +kernel
  have hlabel := ofHandle_of_described hid hdescribed
  rw [hparts] at hlabel
  exact ⟨text, htext, Except.ok.inj (htext.symm.trans hlabel)⟩

/-- An address with an unpaired bracket has no label, though the volumes are well typed. -/
theorem label_is_not_given_for_bracket :
    (∃ volumes : List (List (String × Json)),
        describedConfig.volumes = .arr (volumes.map .obj) ∧ ∀ fields ∈ volumes, IsVolume fields) ∧
      ofHandle (Platform.ofConfig describedConfig).description none
        "content://[/tree/AB12-34CD%3ABackups" = .error .malformed :=
  ⟨⟨[describedCard], rfl, by simpa using describedCard_isVolume⟩, rfl⟩

end Label

end BackupLocator
