import DirectoryAuth.Dn.AttributeNames
import DirectoryAuth.Dn.Basic
import DirectoryAuth.Dn.Escape

/-! The written form of distinguished names: `name=value` components, in the order account name,
common name, organizational units, domain components, separated by commas. -/
namespace DirectoryAuth

/-- One component of a distinguished name. -/
structure Dn.Component where
  name : String
  value : String
  deriving DecidableEq, Repr

def Dn.Component.chars (component : Dn.Component) : List Char :=
  component.name.toList ++ '=' :: Dn.escape component.value.toList

def Dn.textOf (components : List Dn.Component) : String :=
  String.ofList (Dn.joinTokens (components.map Dn.Component.chars))

namespace AttributeNames

open Dn (Component)

/-- The component of a value that is there and is not empty. -/
def optionalComponent (name : String) (value : Option String) : List Component :=
  ((nonempty? value).map (Component.mk name)).toList

def placeComponents (names : AttributeNames) (dn : DistinguishedName) : List Component :=
  dn.organizationalUnits.map (Component.mk names.organizationalUnit) ++
    dn.domainComponents.map (Component.mk names.domainComponent)

def dnComponents (names : AttributeNames) (dn : DistinguishedName) : List Component :=
  optionalComponent names.commonName dn.commonName ++ names.placeComponents dn

def accountComponents (names : AttributeNames) (account : Account) : List Component :=
  optionalComponent names.accountName account.accountName ++ names.dnComponents account.name

/-- The components to bind as: a common name that is not blank, or else the account name, and then
the places. -/
def authenticationComponents (names : AttributeNames) (account : Account) : List Component :=
  (if account.name.hasCommonName then optionalComponent names.commonName account.name.commonName
    else optionalComponent names.accountName account.accountName) ++
    names.placeComponents account.name

def formatDn (names : AttributeNames) (dn : DistinguishedName) : String :=
  Dn.textOf (names.dnComponents dn)

def formatAccount (names : AttributeNames) (account : Account) : String :=
  Dn.textOf (names.accountComponents account)

/-- The name to bind as, rebuilt from the components of the account. -/
def authenticationDn (names : AttributeNames) (account : Account) : String :=
  Dn.textOf (names.authenticationComponents account)

end AttributeNames

instance : ToString DistinguishedName := ⟨AttributeNames.formatDn {}⟩

instance : ToString Account := ⟨AttributeNames.formatAccount {}⟩

end DirectoryAuth
