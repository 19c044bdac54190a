import DirectoryAuth.Attempt.Basic
import DirectoryAuth.Table

/-! Authentication against a fixed list of credentials. In writing, the credentials are separated
by blanks. -/
namespace DirectoryAuth

structure StaticList where
  credentials : Table Credential := {}

/-- The written forms of credentials, with a space between each two. -/
def Credential.listText (credentials : List Credential) : String :=
  String.intercalate " " (credentials.map Credential.text)

namespace StaticList

/-- A later credential replaces an earlier one of the same user. -/
def ofCredentials (credentials : List Credential) : StaticList :=
  ⟨Table.ofList (credentials.map fun c => (c.username, c))⟩

/-- Reads a list; the first credential that is malformed rejects it. -/
def parse (text : String) : Except CredentialError StaticList :=
  ofCredentials <$> (Text.words text).mapM Credential.parse

def size (list : StaticList) : Nat := list.credentials.size

def contains (list : StaticList) (username : String) : Bool := list.credentials.contains username

/-- The attempt of a user at `start`, not yet finished. A user who is not on the list has a
credential with the salt `drawn`. -/
def check (list : StaticList) (username password : String) (drawn : Bytes) (start : Instant) :
    Attempt :=
  match list.credentials.get? username with
  | none =>
    { credential := some (.ofPassword username password drawn), start := start
      message := "Not a valid username: " ++ username }
  | some expected =>
    let candidate := Credential.ofPassword username password expected.salt
    if expected.matchesDigest candidate.digest then
      { credential := some candidate, start := start, status := .success
        message := "Successfully authenticated username: " ++ username }
    else
      { credential := some candidate, start := start
        message := "Password does not match for username: " ++ username }

/-- Authenticates once, reading the clock at the start and at the end. -/
def authenticate {σ : Type} (now : σ → Instant × σ) (list : StaticList)
    (username password : String) (drawn : Bytes) (s : σ) : Attempt × σ :=
  let (start, s) := now s
  let (finish, s) := now s
  ((list.check username password drawn start).finishAt finish, s)

/-- Authenticates once and puts the finished attempt at the end of the log of attempts. -/
def authenticateLogged {σ : Type} (now : σ → Instant × σ) (list : StaticList)
    (username password : String) (drawn : Bytes) (log : List LogEntry) (s : σ) :
    Attempt × List LogEntry × σ :=
  let (attempt, s) := list.authenticate now username password drawn s
  (attempt, log ++ [attempt.logEntry], s)

end StaticList

end DirectoryAuth
