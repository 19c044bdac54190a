import DirectoryAuth.Attempt.Cache
import DirectoryAuth.Directory.Error
import DirectoryAuth.Settings.Cache

/-! Authentication by asking a directory, unless a recent attempt with the same credential can be
used again. -/
namespace DirectoryAuth

/-- A clock and a directory, each of which may change the state of the world that it is part of. -/
structure World (σ : Type) where
  now : σ → Instant × σ
  /-- Whether the directory accepts a username with a password. -/
  verify : (username password : String) → σ → Except DirectoryError Bool × σ

structure Coordinator where
  cacheEnabled : Bool
  /-- In nanoseconds. -/
  maxAge : Int
  /-- One salt for all attempts, so that attempts with equal passwords have equal digests. -/
  salt : Bytes
  cache : AttemptCache

namespace Coordinator

def ofSettings (settings : CacheSettings) (salt : Bytes) : Coordinator where
  cacheEnabled := settings.enabled
  maxAge := settings.maxAge
  salt := salt
  cache := { depth := settings.maxDepth.toNat }

/-- The message of an attempt that repeats the outcome of an earlier one. -/
def replayMessage (message : String) : String :=
  "User authenticated from cache (formerly: " ++ message ++ ")"

/-- The earlier attempt whose outcome an attempt that starts at `start` repeats. -/
def replayed? (c : Coordinator) (credential : Credential) (start : Instant) : Option Attempt :=
  if c.cacheEnabled then
    (c.cache.mostRecent credential).1.filter fun earlier => start.since earlier.start < c.maxAge
  else none

/-- The coordinator after it has looked for an earlier attempt. -/
def lookedUp (c : Coordinator) (credential : Credential) : Coordinator :=
  if c.cacheEnabled then { c with cache := (c.cache.mostRecent credential).2 } else c

/-- The outcome for an answer of the directory. -/
def outcome : Except DirectoryError Bool → Status × String
  | .ok true => (.success, "Successfully authenticated against LDAP server.")
  | .ok false => (.failure, "Authentication failed against LDAP server.")
  | .error e => (.error, e.message)

/-- Remembers a finished attempt. One whose credential has no key is let go. -/
def record (c : Coordinator) (a : Attempt) : Coordinator :=
  if c.cacheEnabled then { c with cache := (c.cache.add a).toOption.getD c.cache } else c

/-- What an authentication leaves behind. -/
structure Reply (σ : Type) where
  attempt : Attempt
  coordinator : Coordinator
  world : σ
  /-- Whether the directory was asked. -/
  asked : Bool

variable {σ : Type}

/-- Authenticates once. Only answers of the directory are remembered. -/
def authenticate (w : World σ) (c : Coordinator) (username password : String) (s : σ) : Reply σ :=
  let (start, s) := w.now s
  let credential := Credential.ofPassword username password c.salt
  let attempt : Attempt := { credential := some credential, start := start }
  let c' := c.lookedUp credential
  match c.replayed? credential start with
  | some earlier =>
    let (finish, s) := w.now s
    ⟨(attempt.setOutcome earlier.status (replayMessage earlier.message)).finishAt finish, c', s,
      false⟩
  | none =>
    let (answer, s) := w.verify username password s
    let (finish, s) := w.now s
    let attempt := (attempt.setOutcome (outcome answer).1 (outcome answer).2).finishAt finish
    ⟨attempt, c'.record attempt, s, true⟩

/-- The lines that an authentication adds to the log of attempts. -/
def Reply.log (r : Reply σ) : List LogEntry := [r.attempt.logEntry]

end Coordinator

end DirectoryAuth
