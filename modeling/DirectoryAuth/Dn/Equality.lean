import DirectoryAuth.Dn.Format
import DirectoryAuth.Text.Lowercase

/-! Equality of entries: their written forms agree in lower case. -/
namespace DirectoryAuth

def Text.sameLowercase (s t : String) : Bool := lowercase s == lowercase t

def DistinguishedName.same (a b : DistinguishedName) : Bool :=
  Text.sameLowercase (toString a) (toString b)

/-- Accounts are the same if their account names and names are; e-mail and entry name do not
count. -/
def Account.same (a b : Account) : Bool := Text.sameLowercase (toString a) (toString b)

end DirectoryAuth
