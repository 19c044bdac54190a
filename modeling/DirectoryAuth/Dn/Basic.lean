import DirectoryAuth.Text.Blank

/-! Distinguished names, and the accounts that they belong to. -/
namespace DirectoryAuth

structure DistinguishedName where
  commonName : Option String := none
  organizationalUnits : List String := []
  domainComponents : List String := []
  deriving DecidableEq, Repr, Inhabited

/-- Whether a value is there and is not blank. -/
def hasText (value : Option String) : Bool := value.any fun s => !Text.isBlank s

/-- A value that is there and is not empty. -/
def nonempty? (value : Option String) : Option String := value.filter (· != "")

namespace DistinguishedName

def hasCommonName (dn : DistinguishedName) : Bool := hasText dn.commonName

def addOrganizationalUnit (dn : DistinguishedName) (value : String) : DistinguishedName :=
  { dn with organizationalUnits := dn.organizationalUnits ++ [value] }

def addDomainComponent (dn : DistinguishedName) (value : String) : DistinguishedName :=
  { dn with domainComponents := dn.domainComponents ++ [value] }

end DistinguishedName

/-- A user's own entry. `entryDn` is the name under which a search returned it. -/
structure Account where
  name : DistinguishedName := {}
  accountName : Option String := none
  email : Option String := none
  entryDn : Option String := none
  deriving DecidableEq, Repr, Inhabited

def Account.hasAccountName (account : Account) : Bool := hasText account.accountName

end DirectoryAuth
