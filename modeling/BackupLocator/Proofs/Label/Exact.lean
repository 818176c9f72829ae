import BackupLocator.Proofs.Label

/-!
# Exact labels

A label is the leaf of a handle, with a blank and the description of its volume in front of it if
there is one. The leaf has been cleaned: each character that turns the direction of writing has
been replaced where it stands, and nothing else has changed. So only a description can turn the
direction of writing, and neither text is read as a template.
-/

namespace BackupLocator.Label

/-! ## Cleaned names -/

/-- The two replacements are one, for neither gives a character that the other takes. -/
theorem toList_clean (name : String) :
    (clean name).toList = name.toList.map fun c => if isOverride c then '\ufffd' else c := by
  rw [clean, replaced, replaced, String.toList_map, String.toList_map, List.map_map]
  refine List.map_congr_left fun c _ => ?_
  by_cases hleft : c = '\u202d'
  · subst hleft
    decide
  · simp [isOverride, hleft]

/-- A name and its cleaned form agree but for the characters that turn the direction of writing. -/
structure IsCleaned (name cleaned : String) : Prop where
  length_eq : cleaned.length = name.length
  replaced : ∀ (i : Nat) c, name.toList[i]? = some c → isOverride c = true →
    cleaned.toList[i]? = some '\ufffd'
  kept : ∀ (i : Nat) c, name.toList[i]? = some c → isOverride c = false →
    cleaned.toList[i]? = some c

theorem clean_isCleaned (name : String) : IsCleaned name (clean name) where
  length_eq := by simp [← String.length_toList, toList_clean]
  replaced i c hc hover := by simp [toList_clean, hc, hover]
  kept i c hc hover := by simp [toList_clean, hc, hover]

theorem not_isOverride_of_mem_clean {name : String} {c : Char} (h : c ∈ (clean name).toList) :
    isOverride c = false := by
  rw [toList_clean, List.mem_map] at h
  obtain ⟨d, -, rfl⟩ := h
  cases hd : isOverride d with
  | true => simp [isOverride]
  | false => simpa using hd

/-- A name without such characters is clean. -/
theorem clean_eq_self {name : String} (h : ∀ c ∈ name.toList, isOverride c = false) :
    clean name = name := by
  rw [← String.toList_inj, toList_clean]
  refine (List.map_congr_left fun c hc => ?_).trans (List.map_id' _)
  simp [h c hc]

theorem clean_clean (name : String) : clean (clean name) = clean name :=
  clean_eq_self fun _ hc => not_isOverride_of_mem_clean hc

/-! ## Labels -/

/-- The answers of a table of descriptions. -/
def lookedUp (descriptions : String → Option String) (volume : String) : Except Failure Json :=
  .ok ((descriptions volume).elim .null .str)

/-- For every handle that has an id, and whatever volumes are described, the label is the cleaned
leaf, behind a description and a blank if there is a description for the tag of the id. Only a
description can turn the direction of writing in it. -/
theorem label_is_exact (descriptions : String → Option String) {handle id : String}
    (hid : Handle.documentId handle = .ok id) :
    let leaf := Handle.leaf id
    let label := ofHandle (lookedUp descriptions) none handle
    (':' ∉ leaf.toList ∧ (leaf = id ∨ ∃ front, id = front ++ ":" ++ leaf)) ∧
      (∀ name, IsCleaned name (clean name) ∧ clean (clean name) = clean name) ∧
      (descriptions (Handle.volumeTag id) = none → label = .ok (clean leaf)) ∧
      (∀ description, descriptions (Handle.volumeTag id) = some description →
        label = .ok (description ++ " " ++ clean leaf)) ∧
      ∀ text, label = .ok text → ∀ c ∈ text.toList, isOverride c = true →
        ∃ description, descriptions (Handle.volumeTag id) = some description ∧
          c ∈ description.toList := by
  intro leaf label
  have hbare (h : descriptions (Handle.volumeTag id) = none) : label = .ok (clean leaf) :=
    ofHandle_of_undescribed none hid (by rw [lookedUp, h]; rfl)
  have hdescribed {description : String}
      (h : descriptions (Handle.volumeTag id) = some description) :
      label = .ok (description ++ " " ++ clean leaf) :=
    ofHandle_of_described hid (by rw [lookedUp, h]; rfl)
  refine ⟨⟨(Handle.isCut id).leaf_plain, Handle.leaf_eq_or id⟩,
    fun name => ⟨clean_isCleaned name, clean_clean name⟩, hbare, fun _ h => hdescribed h, ?_⟩
  intro text htext c hc hover
  cases hlookup : descriptions (Handle.volumeTag id) with
  | none =>
    obtain rfl := Except.ok.inj (htext.symm.trans (hbare hlookup))
    simp [not_isOverride_of_mem_clean hc] at hover
  | some description =>
    obtain rfl := Except.ok.inj (htext.symm.trans (hdescribed hlookup))
    refine ⟨description, rfl, ?_⟩
    simp only [String.toList_append, List.mem_append] at hc
    rcases hc with (hc | hblank) | hname
    · exact hc
    · obtain rfl : c = ' ' := by simpa using hblank
      contradiction
    · simp [not_isOverride_of_mem_clean hname] at hover

/-- An escaped character that would turn the direction of writing is replaced, and fields of a
template are shown as they are. -/
theorem label_is_exact_on_card :
    let descriptions (volume : String) :=
      if volume = "AB12-34CD" then some "\x7bname\x7d" else none
    ofHandle (lookedUp descriptions) none
        "content://documents/tree/AB12-34CD%3A%E2%80%AEgpj%7Bname%7D.exe" =
      .ok "\x7bname\x7d \ufffdgpj\x7bname\x7d.exe" := by
  intro descriptions
  have hpath : Handle.pathOfAddress?
      "content://documents/tree/AB12-34CD%3A%E2%80%AEgpj%7Bname%7D.exe".toList =
        some "/tree/AB12-34CD%3A%E2%80%AEgpj%7Bname%7D.exe".toList := rfl
  have hid : Handle.documentId "content://documents/tree/AB12-34CD%3A%E2%80%AEgpj%7Bname%7D.exe" =
      .ok "AB12-34CD:\u202egpj\x7bname\x7d.exe" := by
    rw [Handle.documentId, if_pos (by decide), hpath]
    exact congrArg Except.ok (by decide +kernel)
  have hdescribed : descriptions (Handle.volumeTag "AB12-34CD:\u202egpj\x7bname\x7d.exe") =
      some "\x7bname\x7d" := by decide +kernel
  obtain ⟨-, -, -, hlabel, -⟩ := label_is_exact descriptions hid
  rw [hlabel _ hdescribed]
  exact congrArg Except.ok (by decide +kernel)

end BackupLocator.Label
