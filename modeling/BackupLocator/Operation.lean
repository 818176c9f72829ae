import BackupLocator.Resolver

/-!
# Operations

Everything that is asked of a resolver and of its choice of storage roots, as data, so that whole
runs can be spoken about. An answer is what an operation gives.
-/

namespace BackupLocator

/-- What is asked of a resolver. -/
inductive Operation where
  | full (handle : Option String) (preferRemovable : Bool)
  | plaintext (handle : Option String) (preferRemovable : Bool)
  | legacy
  | legacyRoot (preferRemovable : Bool)
  | directory (request : CategoryRequest) (handle : Option String) (preferRemovable : Bool)
  | canWriteDefault
  | legacyReadCandidates
  | selectRoot (preferRemovable : Bool)
  | defaultRoot
  | removableCandidates
  | invalidate
  deriving DecidableEq

/-- What an operation gives. -/
inductive Answer where
  | directory (d : ResolvedDirectory)
  | flag (b : Bool)
  | paths (ps : List Path)
  | site (s : Site)
  | sites (ss : List Site)
  | done
  deriving DecidableEq

namespace Operation

/-- An operation carried out. -/
def perform (r : Resolver) : Operation → Action Answer
  | .full handle prefer => return .directory (← r.fullDirectory handle prefer)
  | .plaintext handle prefer => return .directory (← r.plaintextDirectory handle prefer)
  | .legacy => return .directory (← r.legacyDirectory)
  | .legacyRoot prefer => return .directory (← r.legacyRootDirectory prefer)
  | .directory request handle prefer => return .directory (← r.directory request handle prefer)
  | .canWriteDefault => return .flag (← r.canWriteDefault)
  | .legacyReadCandidates => return .paths (← r.legacyReadCandidates)
  | .selectRoot prefer => return .site (← r.selector.selectRoot prefer)
  | .defaultRoot => return .site (← r.selector.defaultRoot)
  | .removableCandidates => return .sites (← r.selector.candidates)
  | .invalidate => do
    Selector.invalidate
    return .done

/-- Whether an operation only reads. -/
def isRead : Operation → Bool
  | .canWriteDefault => true
  | .legacyReadCandidates => true
  | .selectRoot _ => true
  | .defaultRoot => true
  | .removableCandidates => true
  | .invalidate => true
  | _ => false

end Operation

end BackupLocator
