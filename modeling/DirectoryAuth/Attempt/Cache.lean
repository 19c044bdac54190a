import DirectoryAuth.Attempt.History
import DirectoryAuth.Table

/-! The attempts of the recent past, by what repeated attempts with one credential have in
common. -/
namespace DirectoryAuth

structure AttemptCache where
  depth : Nat := defaultDepth
  histories : Table History := {}

namespace AttemptCache

/-- The number of credentials that attempts are remembered for. -/
def size (cache : AttemptCache) : Nat := cache.histories.size

def isEmpty (cache : AttemptCache) : Bool := cache.size == 0

/-- Changes the limit of all histories, those to come included. -/
def setDepth (cache : AttemptCache) (depth : Nat) : AttemptCache :=
  ⟨depth, cache.histories.map (·.setLimit depth)⟩

/-- Remembers an attempt, if its credential has a key. -/
def add (cache : AttemptCache) (a : Attempt) : Except CredentialError AttemptCache := do
  let credential ← match a.credential with
    | some credential => pure credential
    | none => throw .missingCredential
  let key ← credential.cacheKey
  let history := (cache.histories.get? key).getD { limit := cache.depth }
  pure { cache with histories := cache.histories.set key (history.add a) }

def history? (cache : AttemptCache) (credential : Credential) : Option History :=
  credential.cacheKey.toOption.bind cache.histories.get?

/-- The remembered attempts with a credential, oldest first. -/
def attempts (cache : AttemptCache) (credential : Credential) : List Attempt :=
  ((cache.history? credential).map (·.attempts)).getD []

def count (cache : AttemptCache) (credential : Credential) : Nat :=
  (cache.attempts credential).length

/-- Trims the history of one credential. -/
def prune (cache : AttemptCache) (credential : Credential) : AttemptCache :=
  match credential.cacheKey with
  | .ok key =>
    match cache.histories.get? key with
    | some history => { cache with histories := cache.histories.set key history.prune }
    | none => cache
  | .error _ => cache

def pruneAll (cache : AttemptCache) : AttemptCache :=
  { cache with histories := cache.histories.map (·.prune) }

/-- The latest attempt with a credential, whose history is trimmed first. -/
def mostRecent (cache : AttemptCache) (credential : Credential) : Option Attempt × AttemptCache :=
  let pruned := cache.prune credential
  ((pruned.history? credential).bind (·.mostRecent?), pruned)

end AttemptCache

end DirectoryAuth
