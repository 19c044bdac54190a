import DirectoryAuth.Credential.Error
import DirectoryAuth.Password
import DirectoryAuth.Text.Quoted
import DirectoryAuth.Text.Split

/-! A username with the salted digest of a password, and its written form
`username:salt:digest`, salt and digest in Base64. The password itself is never kept. -/
namespace DirectoryAuth

structure Credential where
  username : String
  salt : Bytes
  digest : Option Bytes
  digest_ne_nil : digest ≠ some []
  deriving DecidableEq

namespace Credential

/-- The credential of a password; a blank password leaves it without a digest. -/
def ofPassword (username password : String) (salt : Bytes) : Credential :=
  ⟨username, salt, Password.digest? salt password, Password.digest?_ne_nil _ _⟩

/-- The credential of a stored digest; an empty digest counts as absent. -/
def ofDigest (username : String) (salt : Bytes) (digest : Option Bytes) : Credential :=
  ⟨username, salt, Password.present digest, Password.present_ne_nil _⟩

def saltText? (c : Credential) : Option String := Base64.encodeNonempty? c.salt

def digestText? (c : Credential) : Option String := c.digest.bind Base64.encodeNonempty?

def matchesDigest (c : Credential) (digest : Option Bytes) : Bool :=
  Password.digestsMatch c.digest digest

/-- Whether the password, under the given salt, has this credential's digest. -/
def matchesPassword (c : Credential) (password : String) (salt : Bytes) : Bool :=
  c.matchesDigest (Password.digest? salt password)

/-- The same username, letter for letter, with the same digest. -/
def isDuplicate (a b : Credential) : Bool := a.username == b.username && a.matchesDigest b.digest

/-- What repeated attempts with one credential have in common. -/
def cacheKey (c : Credential) : Except CredentialError String :=
  if c.username = "" then .error .missingUsername
  else match c.digestText? with
    | some text => .ok (c.username ++ ":" ++ text)
    | none => .error .missingPasswordDigest

/-- The written form. -/
def text (c : Credential) : String :=
  c.username ++ ":" ++ c.saltText?.getD "" ++ ":" ++ c.digestText?.getD ""

instance : ToString Credential := ⟨text⟩

/-- Splits the written form at its first two colons, none of the three parts empty. -/
def cutText (s : String) : Except CredentialError (String × String × String) :=
  match Text.splitAt? ':' s with
  | some (username, rest) =>
    if username = "" then .error (.malformed "missing username")
    else match Text.splitAt? ':' rest with
      | some (salt, digest) =>
        if salt = "" ∨ digest = "" then .error (.malformed "missing salt or password")
        else .ok (username, salt, digest)
      | none => .error (.malformed "missing salt or password")
  | none => .error (.malformed "missing username")

def readBase64 (text : String) : Except CredentialError (Option Bytes) :=
  (Base64.read text).mapError fun e => .invalidBase64 e.text

/-- Reads the written form. -/
def parse (s : String) : Except CredentialError Credential := do
  let (username, saltText, digestText) ← cutText s
  let salt ← readBase64 saltText
  let digest ← readBase64 digestText
  pure (ofDigest username (salt.getD []) digest)

/-- A diagnostic text that shows neither salt nor digest. -/
def redacted (c : Credential) : String :=
  let digest := if c.digest.isSome then "Some(\"<redacted>\")" else "None"
  "Credential \x7b username: " ++ Text.quoted c.username ++
    ", salt: \"<redacted>\", hashed_password: " ++ digest ++ " \x7d"

end Credential

end DirectoryAuth
