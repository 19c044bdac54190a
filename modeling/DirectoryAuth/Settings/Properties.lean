import DirectoryAuth.Settings.Basic
import DirectoryAuth.Settings.Number
import DirectoryAuth.Table
import DirectoryAuth.Text.AsciiCase

/-! Settings from the properties of a message broker. A number or a truth value that cannot be
read is an error, so that a slip does not turn the cache off. -/
namespace DirectoryAuth

namespace Settings

def readTruth? (s : String) : Option Bool :=
  let word := Text.asciiLower (Text.trim s)
  if word = "true" then some true else if word = "false" then some false else none

/-- The value of a property under a reader; `unset` if there is no such property. -/
def readProperty {α : Type} (read? : String → Option α) (properties : Table String) (key : String)
    (unset : α) : Except SettingsError α :=
  match properties.get? key with
  | none => .ok unset
  | some value =>
    match read? value with
    | some a => .ok a
    | none => .error (.invalidValue key value)

/-- The value of a property that is there and not blank. -/
def textProperty? (properties : Table String) (key : String) : Option String :=
  (properties.get? key).filter (!Text.isBlank ·)

def readTrimmedNumber? (s : String) : Option UInt64 := readNumber? (Text.trim s)

def ofProperties (properties : Table String) : Except SettingsError Settings := do
  let unset : Settings := {}
  let enabled ← readProperty readTruth? properties "auth.cache.enabled" unset.cache.enabled
  let maxDepth ←
    readProperty readTrimmedNumber? properties "auth.cache.history.maxDepth" unset.cache.maxDepth
  let maxAge ←
    readProperty readTrimmedNumber? properties "auth.cache.history.maxAge" unset.cache.maxAgeMillis
  pure { unset with
    ldap := { unset.ldap with
      serverUrl := ((textProperty? properties "auth.ldap.server.url").map Text.trim).getD
        unset.ldap.serverUrl
      bindDn := (textProperty? properties "auth.ldap.bind.dn").getD unset.ldap.bindDn
      bindPassword :=
        (textProperty? properties "auth.ldap.bind.password").getD unset.ldap.bindPassword
      attributes := { unset.ldap.attributes with
        accountName := ((properties.get? "auth.ldap.user.id").map Text.trim).getD
          unset.ldap.attributes.accountName } }
    cache := ⟨enabled, maxDepth, maxAge⟩
    staticCredentials := properties.get? staticCredentialsProperty }

end Settings

end DirectoryAuth
