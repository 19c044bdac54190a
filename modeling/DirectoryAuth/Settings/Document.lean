import DirectoryAuth.Bytes
import DirectoryAuth.Settings.Basic
import DirectoryAuth.Toml.Parser

/-! Settings from a TOML document. What a document does not name keeps its default, and what it
names besides is passed over. -/
namespace DirectoryAuth.Settings

open Toml (Value)

def orDefault {α : Type} (read? : Value → Option α) (unset : α) : Option Value → Option α
  | none => some unset
  | some v => read? v

def word? (v : Value) : Option UInt64 := do
  let n ← v.natural?
  if n < UInt64.size then pure n.toUInt64 else none

def attributes? (v : Value) : Option AttributeNames := do
  let unset : AttributeNames := {}
  match ← v.fields? ["account_name", "common_name", "email", "organizational_unit",
      "domain_component", "member_of", "member"] with
  | [account, common, email, unit, component, memberOf, member] =>
    pure {
      accountName := ← orDefault Value.string? unset.accountName account
      commonName := ← orDefault Value.string? unset.commonName common
      email := ← orDefault Value.string? unset.email email
      organizationalUnit := ← orDefault Value.string? unset.organizationalUnit unit
      domainComponent := ← orDefault Value.string? unset.domainComponent component
      memberOf := ← orDefault Value.string? unset.memberOf memberOf
      member := ← orDefault Value.string? unset.member member }
  | _ => none

def ldap? (v : Value) : Option LdapSettings := do
  let unset : LdapSettings := {}
  match ← v.fields? ["server_url", "start_tls", "bind_dn", "bind_password", "user_base_dn",
      "timeout_seconds", "attributes"] with
  | [url, tls, dn, password, base, timeout, attributes] =>
    pure {
      serverUrl := ← orDefault Value.string? unset.serverUrl url
      startTls := ← orDefault Value.boolean? unset.startTls tls
      bindDn := ← orDefault Value.string? unset.bindDn dn
      bindPassword := ← orDefault Value.string? unset.bindPassword password
      userBaseDn := ← orDefault Value.string? unset.userBaseDn base
      timeoutSeconds := ← orDefault word? unset.timeoutSeconds timeout
      attributes := ← orDefault attributes? unset.attributes attributes }
  | _ => none

def cache? (v : Value) : Option CacheSettings := do
  let unset : CacheSettings := {}
  match ← v.fields? ["enabled", "max_depth", "max_age_ms"] with
  | [enabled, depth, age] =>
    pure {
      enabled := ← orDefault Value.boolean? unset.enabled enabled
      maxDepth := ← orDefault word? unset.maxDepth depth
      maxAgeMillis := ← orDefault word? unset.maxAgeMillis age }
  | _ => none

def logging? (v : Value) : Option LoggingSettings := do
  let unset : LoggingSettings := {}
  match ← v.fields? ["level", "format"] with
  | [level, format] =>
    pure {
      level := ← orDefault Value.string? unset.level level
      format := ← orDefault Value.string? unset.format format }
  | _ => none

/-- The settings that a value of a document gives. -/
def ofValue? (v : Value) : Option Settings := do
  match ← v.fields? ["ldap", "cache", "static_credentials", "logging"] with
  | [ldap, cache, credentials, logging] =>
    pure {
      ldap := ← orDefault ldap? {} ldap
      cache := ← orDefault cache? {} cache
      staticCredentials := ← orDefault (fun v => v.string?.map some) none credentials
      logging := ← orDefault logging? {} logging }
  | _ => none

def ofDocument (text : String) : Except SettingsError Settings :=
  match (Toml.parse? text).bind ofValue? with
  | some settings => .ok settings
  | none => .error (.parse "not a document of settings")

/-- The settings in a file, given by its bytes or by the reason why it cannot be read. -/
def ofFile (content : Except String Bytes) : Except SettingsError Settings :=
  match content with
  | .error reason => .error (.read reason)
  | .ok bytes =>
    match ofUtf8? bytes with
    | some text => ofDocument text
    | none => .error (.read "stream did not contain valid UTF-8")

end DirectoryAuth.Settings
