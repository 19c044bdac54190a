import DirectoryAuth.Settings.Cache
import DirectoryAuth.Settings.Ldap
import DirectoryAuth.Text.Blank

/-! All settings of an authenticator. -/
namespace DirectoryAuth

structure LoggingSettings where
  level : String := "info"
  format : String := "pretty"
  deriving DecidableEq, Repr, Inhabited

structure Settings where
  ldap : LdapSettings := {}
  cache : CacheSettings := {}
  /-- A list of credentials that is used instead of the directory, unless it is blank. -/
  staticCredentials : Option String := none
  logging : LoggingSettings := {}
  deriving DecidableEq, Repr, Inhabited

namespace Settings

/-- The list of credentials that replaces the directory. -/
def staticList? (s : Settings) : Option String := s.staticCredentials.filter (!Text.isBlank ·)

def usesStaticCredentials (s : Settings) : Bool := s.staticList?.isSome

end Settings

/-- The name of the property, and of the line in a property file, that holds the list of
credentials. -/
def staticCredentialsProperty : String := "auth.static.credentials"

end DirectoryAuth
