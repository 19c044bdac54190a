import DirectoryAuth.Encoding.Base64
import DirectoryAuth.Hash.Pbkdf2
import DirectoryAuth.Text.Blank

/-! Salted password digests. A blank password has none. -/
namespace DirectoryAuth.Password

/-- Iterations of the key derivation. -/
def iterations : Nat := 65536

/-- Bytes in a digest. -/
def digestLength : Nat := 16

/-- Bytes in a salt that is drawn without saying how many. -/
def saltLength : Nat := 16

/-- The digest of a password under a salt, unless the password is blank. -/
def digest? (salt : Bytes) (password : String) : Option Bytes :=
  if Text.isBlank password then none
  else some (Pbkdf2.derive (utf8 password) salt iterations digestLength)

theorem digest?_eq_none_iff {salt : Bytes} {password : String} :
    digest? salt password = none ↔ Text.isBlank password = true := by
  simp [digest?]

theorem length_of_digest? {salt digest : Bytes} {password : String}
    (h : digest? salt password = some digest) : digest.length = digestLength := by
  rw [digest?] at h
  split at h
  · simp at h
  · exact Option.some.inj h ▸ Pbkdf2.length_derive ..

theorem digest?_ne_nil (salt : Bytes) (password : String) : digest? salt password ≠ some [] :=
  fun h => by simpa [digestLength] using length_of_digest? h

/-- A digest that is there; an empty one counts as absent. -/
def present (digest : Option Bytes) : Option Bytes := digest.filter (!·.isEmpty)

theorem present_ne_nil (digest : Option Bytes) : present digest ≠ some [] := by
  simp [present, Option.filter_eq_some_iff]

theorem present_eq_self {digest : Option Bytes} (h : digest ≠ some []) :
    present digest = digest := by
  cases digest with
  | none => rfl
  | some bytes => simpa [present, Option.filter] using h

/-- Two present digests agree if their bytes do, and an absent one only with an absent one. -/
def digestsMatch (expected candidate : Option Bytes) : Bool :=
  present expected == present candidate

theorem digestsMatch_eq_true_iff {a b : Option Bytes} :
    digestsMatch a b = true ↔ present a = present b := by
  simp [digestsMatch]

/-- A salt of `length` bytes from a source of random bytes. -/
def salt (source : Nat → UInt8) (length : Nat) : Bytes := (List.range length).map source

def defaultSalt (source : Nat → UInt8) : Bytes := salt source saltLength

/-- Why a password or a digest cannot be handled. -/
inductive Error where
  | derivationUnavailable (reason : String)
  | invalidBase64 (text : String)
  deriving DecidableEq, Repr

def Error.message : Error → String
  | derivationUnavailable reason => "Password key derivation unavailable: " ++ reason
  | invalidBase64 text => Base64.Invalid.message ⟨text⟩

end DirectoryAuth.Password
