import BackupLocator.Proofs.Label
import BackupLocator.Proofs.Resolver.ByHandle
import BackupLocator.Proofs.Resolver.Fault
import BackupLocator.Proofs.Resolver.Preference

/-!
# The volume of a label

A label and a directory that is given by a handle are described by the volume of that handle. Both
read its tag from the handle, each in its own way, and both find the same one. So what is shown in
front of the leaf is what the directory says of its storage.
-/

namespace BackupLocator

/-- The site of a handle has the description of its volume, or an empty one. -/
theorem Resolver.description_of_siteAt {r : Resolver} {fs : FileSystem} {handle id : String}
    {site : Site} (hid : Handle.documentId handle = .ok id)
    (h : r.siteAt fs (some handle) = .ok site) :
    ∃ description, r.platform.description (Handle.volumeTag id) = .ok description ∧
      site.description = if description.truthy then description else .str "" := by
  unfold siteAt at h
  split at h
  · contradiction
  · rename_i given hgiven
    obtain rfl : handle = given := Option.some.inj (Option.filter_eq_some_iff.mp hgiven).1
    obtain ⟨path, -, h⟩ := Failure.bind_eq_ok_iff.mp h
    obtain ⟨volume, hvolume, h⟩ := Failure.bind_eq_ok_iff.mp h
    obtain ⟨description, hdescription, h⟩ := Failure.bind_eq_ok_iff.mp h
    obtain rfl := Except.ok.inj h
    obtain rfl := Except.ok.inj (hvolume.symm.trans (Handle.volume_of_documentId hid))
    exact ⟨description, hdescription, rfl⟩

namespace Label

/-- A handle has a label's tag and leaf exactly where it has the tag of a site, and the tags are the
same. The parts of its id are those between its colons. The description in front of the leaf is the
one that a directory given by the handle has: both are looked up for that tag. -/
theorem label_shares_volume (handle : String) :
    (Handle.volumeAndLeaf handle).map Prod.fst = Handle.volume handle ∧
      ∀ id, Handle.documentId handle = .ok id →
        Handle.volumeAndLeaf handle = .ok (Handle.volumeTag id, Handle.leaf id) ∧
        Handle.IsCut id (Handle.volumeTag id) (Handle.relativePath id) (Handle.leaf id) ∧
        ∀ (r : Resolver) (op : Operation) (s s' : Session) (d : ResolvedDirectory),
          op.IsScoped r → op.handle? = some handle →
          (op.perform r).run s = (.ok (.directory d), s') →
          let label := ofHandle r.platform.description none handle
          ∃ description, r.platform.description (Handle.volumeTag id) = .ok description ∧
            (description = .null →
              d.site.description = .str "" ∧ label = .ok (clean (Handle.leaf id))) ∧
            ∀ text, description = .str text →
              d.site.description = .str text ∧
                label = .ok (text ++ " " ++ clean (Handle.leaf id)) := by
  refine ⟨Handle.map_fst_volumeAndLeaf handle, fun id hid => ?_⟩
  refine ⟨Handle.volumeAndLeaf_of_documentId hid, Handle.isCut id, ?_⟩
  intro r op s s' d hscoped hhandle hrun label
  have hsite := hscoped.siteAt_of_success hrun
  rw [hhandle] at hsite
  obtain ⟨description, hasked, hdescription⟩ := Resolver.description_of_siteAt hid hsite
  refine ⟨description, hasked, ?_, ?_⟩
  · rintro rfl
    exact ⟨hdescription, ofHandle_of_undescribed none hid hasked⟩
  · rintro text rfl
    refine ⟨?_, ofHandle_of_described hid hasked⟩
    rw [hdescription]
    by_cases hempty : text = "" <;> simp [Json.truthy, hempty]

/-- A directory with a colon in its name, on a stick that is described. -/
theorem label_shares_volume_on_stick :
    let stick : List (String × Json) :=
      [("uuid", .str "AB12-34CD"), ("description", .str "Stick"), ("path", .str "/stick")]
    let c : Config := { Config.default with volumes := .arr [.obj stick] }
    let fs := Card.withStick.add ["a:b", "stick"] .directory
    ∃ d s', ((Operation.full (some "AB12-34CD:a:b") false).perform (c.resolver false)).run
        (.start fs) = (.ok (.directory d), s') ∧
      d.site.description = .str "Stick" ∧
      ofHandle (Platform.ofConfig c).description none "AB12-34CD:a:b" = .ok "Stick b" := by
  intro stick c fs
  obtain ⟨d, s', hrun⟩ : ∃ d s', ((Operation.full (some "AB12-34CD:a:b") false).perform
      (c.resolver false)).run (.start fs) = (.ok (.directory d), s') := ⟨_, _, rfl⟩
  have hscoped : (Operation.full (some "AB12-34CD:a:b") false).IsScoped (c.resolver false) :=
    (Operation.isScoped_of_firstScoped_le (Int.le_refl 30) rfl (some "AB12-34CD:a:b") false).1
  obtain ⟨-, hparts⟩ := label_shares_volume "AB12-34CD:a:b"
  obtain ⟨-, -, hshares⟩ := hparts "AB12-34CD:a:b" rfl
  obtain ⟨description, hasked, -, htext⟩ := hshares _ _ _ _ _ hscoped rfl hrun
  have hdescription : (c.resolver false).platform.description
      (Handle.volumeTag "AB12-34CD:a:b") = .ok (.str "Stick") := rfl
  obtain ⟨hsite, hlabel⟩ := htext "Stick" (Except.ok.inj (hasked.symm.trans hdescription))
  have hleaf : "Stick" ++ " " ++ clean (Handle.leaf "AB12-34CD:a:b") = "Stick b" := by
    decide +kernel
  rw [hleaf] at hlabel
  exact ⟨d, s', hrun, hsite, hlabel⟩

end Label

end BackupLocator
