import BackupLocator.Proofs.Action
import BackupLocator.Selector

/-!
# The default root and its memo

What asking for the default root and forgetting it do to a session. The default root is the one
that is remembered, or else the one that the platform's answer leads to, which is remembered then.
-/

namespace BackupLocator

/-- The default root that an answer of the platform leads to. -/
def defaultSite : Except Failure (Option StorageRoot) → Except Failure Site
  | .error e => .error e
  | .ok root => match root.bind StorageRoot.site? with
    | some site => .ok site
    | none => .error .noStorage

namespace Selector

theorem run_invalidate (s : Session) :
    ∃ journal, invalidate.run s = (.ok (), ⟨s.files, none, journal⟩) := by
  rcases s with ⟨files, _ | site, journal⟩ <;> exact ⟨_, rfl⟩

variable (sel : Selector) {s : Session}

theorem run_defaultRoot_of_remembered {site : Site} (h : s.memo = some site) :
    sel.defaultRoot.run s = (.ok site, s) := by
  rcases s with ⟨files, memo, journal⟩
  obtain rfl : memo = some site := h
  rfl

theorem run_defaultRoot_of_forgotten (h : s.memo = none) :
    ∃ journal, sel.defaultRoot.run s = (defaultSite sel.platform.defaultRoot,
      ⟨s.files, (defaultSite sel.platform.defaultRoot).toOption, journal⟩) := by
  rcases s with ⟨files, memo, journal⟩
  obtain rfl : memo = none := h
  rcases sel with ⟨⟨version, answer, externalRoots, description, handlePath⟩, sorted⟩
  rcases answer with e | _ | ⟨_ | path, handle, description⟩ <;> exact ⟨_, rfl⟩

end Selector

end BackupLocator
