import DirectoryAuth.Settings.Basic
import DirectoryAuth.Settings.Number
import DirectoryAuth.Table
import DirectoryAuth.Text.AsciiCase

/-! Settings from environment variables. A number that cannot be read is passed over. -/
namespace DirectoryAuth

/-- The settings that the environment gives. Only the word `true`, in any case, enables the
cache. -/
def Settings.ofEnvironment (environment : Table String) : Settings :=
  let text (name : String) (unset : String) := (environment.get? name).getD unset
  let number (name : String) (unset : UInt64) :=
    ((environment.get? name).bind readNumber?).getD unset
  let unset : Settings := {}
  { ldap := { unset.ldap with
      serverUrl := text "BINDGUARD_LDAP_URL" unset.ldap.serverUrl
      bindDn := text "BINDGUARD_BIND_DN" unset.ldap.bindDn
      bindPassword := text "BINDGUARD_BIND_PASSWORD" unset.ldap.bindPassword
      userBaseDn := text "BINDGUARD_USER_BASE_DN" unset.ldap.userBaseDn
      attributes := { unset.ldap.attributes with
        accountName := text "BINDGUARD_ACCOUNT_ATTRIBUTE" unset.ldap.attributes.accountName } }
    cache := {
      enabled := ((environment.get? "BINDGUARD_CACHE_ENABLED").map
        (Text.eqIgnoreAsciiCase · "true")).getD unset.cache.enabled
      maxDepth := number "BINDGUARD_CACHE_MAX_DEPTH" unset.cache.maxDepth
      maxAgeMillis := number "BINDGUARD_CACHE_MAX_AGE_MS" unset.cache.maxAgeMillis }
    staticCredentials := environment.get? "BINDGUARD_STATIC_CREDENTIALS"
    logging := { unset.logging with level := text "BINDGUARD_LOG_LEVEL" unset.logging.level } }

end DirectoryAuth
