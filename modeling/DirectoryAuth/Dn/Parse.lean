import DirectoryAuth.Directory.Error
import DirectoryAuth.Dn.Format
import DirectoryAuth.Text.AsciiCase
import DirectoryAuth.Text.Split

/-! Reading distinguished names. Names of attributes are compared without regard to ASCII case and
to the blanks around them; tokens without `=` and unknown attributes are passed over. -/
namespace DirectoryAuth

/-- The component that a token writes: its name trimmed, its value without escapes. -/
def Dn.componentOfToken? (token : List Char) : Option Dn.Component :=
  (Text.cutAt? '=' token).map fun r =>
    ⟨String.ofList (Text.trimChars r.1), String.ofList (Dn.unescape r.2)⟩

def Dn.readComponents (s : String) : Except DirectoryError (List Dn.Component) :=
  if s = "" then .error (.invalidDn "DN must not be empty")
  else .ok ((Dn.tokens s.toList).filterMap Dn.componentOfToken?)

namespace AttributeNames

open Text (eqIgnoreAsciiCase)

/-- A later common name replaces an earlier one; the others add up. -/
def applyComponent (names : AttributeNames) (dn : DistinguishedName) (component : Dn.Component) :
    DistinguishedName :=
  if eqIgnoreAsciiCase component.name names.commonName then
    { dn with commonName := some component.value }
  else if eqIgnoreAsciiCase component.name names.organizationalUnit then
    dn.addOrganizationalUnit component.value
  else if eqIgnoreAsciiCase component.name names.domainComponent then
    dn.addDomainComponent component.value
  else dn

/-- Account name and e-mail address come before the components of the name. -/
def applyAccountComponent (names : AttributeNames) (account : Account)
    (component : Dn.Component) : Account :=
  if eqIgnoreAsciiCase component.name names.accountName then
    { account with accountName := some component.value }
  else if eqIgnoreAsciiCase component.name names.email then
    { account with email := some component.value }
  else { account with name := names.applyComponent account.name component }

def parseDn (names : AttributeNames) (s : String) : Except DirectoryError DistinguishedName := do
  pure ((← Dn.readComponents s).foldl names.applyComponent {})

def parseAccount (names : AttributeNames) (s : String) : Except DirectoryError Account := do
  pure ((← Dn.readComponents s).foldl names.applyAccountComponent {})

end AttributeNames

end DirectoryAuth
