import BackupLocator.Proofs.Resolver.Ending

/-!
# What a success means

A directory that an operation gives is there, where the layout has it, and its medium could be
written to when the operation began. Only the medium has been checked. The directory itself can be
written to unless the system refuses exactly that.
-/

namespace BackupLocator

namespace Operation

variable {r : Resolver} {op : Operation} {s s' : Session} {d : ResolvedDirectory}

/-- What only reads gives no directory. -/
theorem isRead_eq_false_of_success (h : (op.perform r).run s = (.ok (.directory d), s')) :
    op.isRead = false := by
  cases op with
  | full | plaintext | legacy | legacyRoot | directory => rfl
  | canWriteDefault | legacyReadCandidates | selectRoot | defaultRoot | removableCandidates
  | invalidate =>
    obtain ⟨a, s₁, -, hpure⟩ := Action.run_bind_eq_ok_iff.mp h
    simp at hpure

/-- A success has settled on the directory that it gives, and has made it. -/
theorem targets_of_success (h : (op.perform r).run s = (.ok (.directory d), s')) :
    op.Targets r s d ∧ s.files.makeDirectory d.path true true = (.ok (), s'.files) := by
  have hread := isRead_eq_false_of_success h
  have hends := perform_ends r op s
  rw [h] at hends
  cases hends with
  | read hop _ => simp [hop] at hread
  | made htarget hmake => exact ⟨htarget, hmake⟩

theorem isDirectory_of_success (h : (op.perform r).run s = (.ok (.directory d), s')) :
    s'.files.isDirectory d.path = .ok true := by
  obtain ⟨-, hmake⟩ := targets_of_success h
  have hthere := FileSystem.isDirectory_of_makeDirectory (congrArg Prod.fst hmake)
  rwa [hmake] at hthere

/-- A directory that is given is there. Its medium was a directory that could be written to, and it
lies below that where the layout has it, by the branch of the operation. -/
theorem given_directory_stands (h : (op.perform r).run s = (.ok (.directory d), s')) :
    s'.files.isDirectory d.path = .ok true ∧
      (s.files.isDirectory d.medium = .ok true ∧ s.files.canWrite d.medium = .ok true) ∧
      (d.model = .scoped → Resolver.IsPathOf s.files r op.handle? d.site.path) ∧
      d.IsLaidOut r.package ∧ op.branch? r = some d.branch := by
  have hfound := (targets_of_success h).1.found
  have hmedium := (FileSystem.canWrite_eq_true_iff.mp hfound.writable).1
  exact ⟨isDirectory_of_success h, ⟨hmedium, hfound.writable⟩, hfound.handle, hfound.laidOut,
    hfound.branch⟩

theorem given_directory_stands_on_card :
    ∃ s', (Operation.legacy.perform Card.resolver).run (.start Card.empty) =
        (.ok (.directory Card.backups), s') ∧
      s'.files.isDirectory (.ofText "/sdcard/Signal/Backups/staging") = .ok true := by
  obtain ⟨s', h⟩ := Card.legacy_gives_backups
  exact ⟨s', h, (given_directory_stands h).1⟩

/-- A directory that is given can be written to exactly where the system does not refuse that: its
medium has been checked and the directory itself has not. -/
theorem given_directory_canWrite_iff (h : (op.perform r).run s = (.ok (.directory d), s')) :
    s'.files.canWrite d.path = .ok true ↔ s.files.absolute d.path ∉ s.files.denied := by
  obtain ⟨-, hmake⟩ := targets_of_success h
  have hgrowth := FileSystem.makeDirectory_growth s.files d.path true true
  rw [hmake] at hgrowth
  rw [FileSystem.canWrite_eq_true_iff, hgrowth.toExtension.absolute, hgrowth.denied]
  exact and_iff_right (isDirectory_of_success h)

theorem given_directory_canWrite_on_card :
    ∃ s', (Operation.legacy.perform Card.resolver).run (.start Card.empty) =
        (.ok (.directory Card.backups), s') ∧
      s'.files.canWrite (.ofText "/sdcard/Signal/Backups/staging") = .ok true := by
  obtain ⟨s', h⟩ := Card.legacy_gives_backups
  have hallowed : Card.empty.absolute Card.backups.path ∉ Card.empty.denied := List.not_mem_nil
  exact ⟨s', h, (given_directory_canWrite_iff h).mpr hallowed⟩

/-- On a card where that directory may not be written to it is given all the same. -/
theorem given_directory_refused_on_card :
    ∃ s', (Operation.legacy.perform Card.resolver).run (.start Card.guarded) =
        (.ok (.directory Card.backups), s') ∧
      s'.files.canWrite Card.backups.path = .ok false :=
  ⟨_, rfl, rfl⟩

end Operation

end BackupLocator
