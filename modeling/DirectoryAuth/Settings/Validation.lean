import DirectoryAuth.Settings.Basic
import DirectoryAuth.Url.Basic

/-! Whether settings can be used. -/
namespace DirectoryAuth

def LdapSettings.checkUrl (s : LdapSettings) : Except SettingsError Unit :=
  if Text.isBlank s.serverUrl then .error (.invalid "Server URL is required")
  else match Url.scheme s.serverUrl with
    | .error e => .error (.invalid ("Invalid server URL: " ++ e.message))
    | .ok scheme =>
      if scheme = "ldap" ∨ scheme = "ldaps" then .ok ()
      else .error (.invalid "Server URL must start with ldap:// or ldaps://")

def LdapSettings.validate (s : LdapSettings) : Except SettingsError Unit := do
  s.checkUrl
  if Text.isBlank s.bindDn then throw (.invalid "Bind DN is required")
  if Text.isBlank s.attributes.accountName then
    throw (.invalid "Account name attribute is required")

/-- A list of credentials makes the directory's settings irrelevant. -/
def Settings.validate (s : Settings) : Except SettingsError Unit := do
  if !s.usesStaticCredentials then s.ldap.validate
  s.cache.validate

end DirectoryAuth
