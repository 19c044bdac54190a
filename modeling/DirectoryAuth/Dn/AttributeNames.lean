/-! The names under which a directory keeps the attributes of users and groups. -/
namespace DirectoryAuth

structure AttributeNames where
  accountName : String := "sAMAccountName"
  commonName : String := "cn"
  email : String := "mail"
  organizationalUnit : String := "ou"
  domainComponent : String := "dc"
  memberOf : String := "memberOf"
  member : String := "member"
  deriving DecidableEq, Repr, Inhabited

/-- The names of a directory whose login attribute is `uid`. -/
def AttributeNames.openLdap : AttributeNames := { accountName := "uid" }

end DirectoryAuth
