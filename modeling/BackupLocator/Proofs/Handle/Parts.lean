import BackupLocator.Handle
import BackupLocator.Proofs.Text.Cut

/-!
# The parts of a document id

An id is cut at its colons: the tag of its volume stands before the first one, the path on that
volume behind it, and the leaf behind the last one. However the parts are asked for, a handle has
them exactly where it has an id, and they are the parts of that id.
-/

namespace BackupLocator.Handle

/-- An id is the tag, the path and the leaf that its colons cut it into. -/
structure IsCut (id tag path leaf : String) : Prop where
  tag_plain : ':' ∉ tag.toList
  leaf_plain : ':' ∉ leaf.toList
  whole : ':' ∈ id.toList → id = tag ++ ":" ++ path
  leaf_of_path : ':' ∈ id.toList → path = leaf ∨ ∃ front, path = front ++ ":" ++ leaf
  bare : ':' ∉ id.toList → id = tag ∧ path = "" ∧ leaf = tag

theorem isCut (id : String) : IsCut id (volumeTag id) (relativePath id) (leaf id) where
  tag_plain := by
    rw [volumeTag, String.toList_ofList]
    exact Text.not_mem_beforeFirst ':' id.toList
  leaf_plain := by
    rw [leaf, String.toList_ofList]
    exact Text.not_mem_afterLast ':' id.toList
  whole h := by
    have hparts := Text.beforeFirst_append_afterFirst h
    rw [← String.toList_inj]
    simp [volumeTag, relativePath, hparts]
  leaf_of_path h := by
    have hcut := Text.beforeFirst_append_afterFirst h
    -- The leaf is that of the path, whatever the tag in front of it is.
    have hleaf := Text.afterLast_append_cons ':' (Text.beforeFirst ':' id.toList)
      (Text.afterFirst ':' id.toList)
    rw [hcut] at hleaf
    rw [relativePath, leaf, hleaf]
    by_cases hpath : ':' ∈ Text.afterFirst ':' id.toList
    · obtain ⟨front, hfront⟩ := Text.exists_append_afterLast hpath
      refine .inr ⟨String.ofList front, ?_⟩
      rw [← String.toList_inj]
      simpa using hfront
    · exact .inl (congrArg String.ofList (Text.afterLast_of_not_mem hpath).symm)
  bare h := by
    simp [volumeTag, relativePath, leaf, Text.beforeFirst_of_not_mem h,
      Text.afterFirst_of_not_mem h, Text.afterLast_of_not_mem h]

/-- The leaf is the id itself, or stands behind a colon at its end. -/
theorem leaf_eq_or (id : String) : leaf id = id ∨ ∃ front, id = front ++ ":" ++ leaf id := by
  have hcut := isCut id
  by_cases h : ':' ∈ id.toList
  · have hwhole := hcut.whole h
    rcases hcut.leaf_of_path h with hpath | ⟨front, hpath⟩
    · exact .inr ⟨volumeTag id, by rwa [hpath] at hwhole⟩
    · refine .inr ⟨volumeTag id ++ ":" ++ front, ?_⟩
      rw [hpath] at hwhole
      simpa only [String.append_assoc] using hwhole
  · obtain ⟨hid, -, hleaf⟩ := hcut.bare h
    exact .inl (hleaf.trans hid.symm)

/-- The tag and the leaf of a handle, read together, are those of its id. -/
theorem volumeAndLeaf_of_documentId {handle id : String} (h : documentId handle = .ok id) :
    volumeAndLeaf handle = .ok (volumeTag id, leaf id) := by
  rw [volumeAndLeaf, h]
  simp only [Except.map, Text.headD_cutFirst, Text.getLastD_cutLast]
  rfl

theorem volume_of_documentId {handle id : String} (h : documentId handle = .ok id) :
    volume handle = .ok (volumeTag id) := by
  rw [volume, h]
  rfl

/-- A handle has a tag and a leaf exactly where it has a tag, and it is the same tag. -/
theorem map_fst_volumeAndLeaf (handle : String) :
    (volumeAndLeaf handle).map Prod.fst = volume handle := by
  cases h : documentId handle with
  | ok id =>
    rw [volumeAndLeaf_of_documentId h, volume_of_documentId h]
    rfl
  | error e =>
    rw [volumeAndLeaf, volume, h]
    rfl

end BackupLocator.Handle
