import BackupLocator.Session

/-!
# Choosing a storage root

A removable root is only a preference: where none is to be had, the default root of the platform
serves. The default root is remembered until it is forgotten on purpose; removable roots are asked
for each time.
-/

namespace BackupLocator

/-- The word in a path that marks internal storage. -/
def emulatedMarker : String := "emulated"

/-- Whether a text marks internal storage. -/
def marksEmulated (s : String) : Bool := Text.occursIn emulatedMarker.toList s.toList

/-- Whether a path lies on internal storage. -/
def Path.isEmulated (p : Path) : Bool := marksEmulated p.text

/-- The roots with a known path that does not lie on internal storage. -/
def removableSites (roots : List (Option StorageRoot)) : List Site :=
  (roots.filterMap fun r => r.bind StorageRoot.site?).filter fun site => !site.path.isEmulated

/-- The sites in the order of their paths; sites of one path stay in their order. -/
def sortedByPath (sites : List Site) : List Site :=
  sites.mergeSort fun a b => decide (a.path.text ≤ b.path.text)

/-- Where a storage root is chosen from. -/
structure Selector where
  platform : Platform
  /-- Whether removable roots are tried in the order of their paths. -/
  sorted : Bool

namespace Selector

/-- The default root, remembered or asked for. -/
def defaultRoot (sel : Selector) : Action Site := do
  match ← Action.memo with
  | some site => return site
  | none =>
    let root ← Action.askDefaultRoot sel.platform
    match root.bind StorageRoot.site? with
    | some site =>
      Action.setMemo (some site)
      return site
    | none =>
      Action.note .error .selector "Platform reported no external storage root"
      Action.fail .noStorage

/-- The default root is forgotten. -/
def invalidate : Action Unit := do
  match ← Action.memo with
  | some site =>
    Action.note .debug .selector ("Invalidating cached storage root " ++ site.path.text)
  | none => pure ()
  Action.setMemo none

/-- The removable roots, in the order in which they are tried. -/
def candidates (sel : Selector) : Action (List Site) := do
  let sites := removableSites (← Action.askExternalRoots sel.platform)
  return if sel.sorted then sortedByPath sites else sites

/-- Whether removable roots are tried at all. The version matters only if they are preferred. -/
def offersRemovable (sel : Selector) (preferRemovable : Bool) : Action Bool :=
  if preferRemovable then Action.ofExcept sel.platform.version.hasManyVolumes else pure false

/-- The root for backups: the first removable one if that is preferred and the platform can have
several volumes, and else the default root. -/
def selectRoot (sel : Selector) (preferRemovable : Bool) : Action Site := do
  if ← sel.offersRemovable preferRemovable then
    match (← sel.candidates).head? with
    | some site =>
      Action.note .debug .selector ("Selected removable storage root " ++ site.path.text)
      return site
    | none =>
      Action.note .info .selector "No removable storage available, using default root"
      sel.defaultRoot
  else sel.defaultRoot

end Selector

end BackupLocator
