import DirectoryAuth.Dn.AttributeNames
import DirectoryAuth.Text.Quoted

/-! Settings of the connection to a directory. -/
namespace DirectoryAuth

structure LdapSettings where
  serverUrl : String := "ldap://localhost:389"
  startTls : Bool := false
  /-- The service account that searches are made with. -/
  bindDn : String := ""
  bindPassword : String := ""
  /-- Where searches start; empty for the whole tree. -/
  userBaseDn : String := ""
  timeoutSeconds : UInt64 := 10
  attributes : AttributeNames := {}
  deriving DecidableEq, Repr, Inhabited

/-- Named fields in braces, as diagnostics show them. -/
def Text.fieldsText (name : String) (fields : List (String × String)) : String :=
  name ++ " \x7b " ++ String.intercalate ", " (fields.map fun f => f.1 ++ ": " ++ f.2) ++ " \x7d"

open Text (quoted)

def AttributeNames.diagnostic (names : AttributeNames) : String :=
  Text.fieldsText "DirectoryAttributes" [("account_name", quoted names.accountName),
    ("common_name", quoted names.commonName), ("email", quoted names.email),
    ("organizational_unit", quoted names.organizationalUnit),
    ("domain_component", quoted names.domainComponent), ("member_of", quoted names.memberOf),
    ("member", quoted names.member)]

/-- A diagnostic text that does not show the password. -/
def LdapSettings.redacted (s : LdapSettings) : String :=
  Text.fieldsText "LdapConfig" [("server_url", quoted s.serverUrl),
    ("start_tls", toString s.startTls), ("bind_dn", quoted s.bindDn),
    ("bind_password", quoted "<redacted>"), ("user_base_dn", quoted s.userBaseDn),
    ("timeout_seconds", toString s.timeoutSeconds.toNat),
    ("attributes", s.attributes.diagnostic)]

end DirectoryAuth
