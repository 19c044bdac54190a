import DirectoryAuth.Dn.Equality
import DirectoryAuth.Dn.Parse

/-! Users with the groups they refer to, groups with their members, and how both are read from the
result of a search. -/
namespace DirectoryAuth

/-- A user's groups are known by their names, and no two of them are the same. -/
structure User where
  account : Account := {}
  groups : List DistinguishedName := []
  deriving DecidableEq, Repr, Inhabited

structure Group where
  name : DistinguishedName := {}
  members : List Account := []
  deriving DecidableEq, Repr, Inhabited

def User.isMemberOf (user : User) (group : DistinguishedName) : Bool :=
  user.groups.any fun g => group.same g

/-- Adds a group unless the same one is there already. -/
def User.addGroup (user : User) (group : DistinguishedName) : User :=
  if user.isMemberOf group then user else { user with groups := user.groups ++ [group] }

def Group.hasMember (group : Group) (account : Account) : Bool :=
  group.members.any fun m => account.same m

/-- Adds a member unless the same one is there already. -/
def Group.addMember (group : Group) (account : Account) : Group :=
  if group.hasMember account then group else { group with members := group.members ++ [account] }

/-- Makes a user and a group refer to each other. -/
def join (user : User) (group : Group) : User × Group :=
  (user.addGroup group.name, group.addMember user.account)

/-- What a search returns for an entry: attribute names with their values, in no particular
order. -/
abbrev EntryAttributes := List (String × List String)

namespace EntryAttributes

/-- All values of an attribute, whatever the ASCII case of its name. -/
def values (attributes : EntryAttributes) (name : String) : List String :=
  (attributes.filter fun a => Text.eqIgnoreAsciiCase a.1 name).flatMap (·.2)

def first? (attributes : EntryAttributes) (name : String) : Option String :=
  (attributes.values name).head?

/-- The attribute itself or a part of it such as `member;range=0-1499`. -/
def isRangeOf (name part : String) : Bool :=
  Text.lowercase part == Text.lowercase name ||
    (Text.lowercase name ++ ";").toList.isPrefixOf (Text.lowercase part).toList

/-- All values of an attribute and of its parts, the parts in ascending order of their names. -/
def rangedValues (attributes : EntryAttributes) (name : String) : List String :=
  ((attributes.filter fun a => isRangeOf name a.1).mergeSort fun a b => decide (a.1 ≤ b.1)).flatMap
    (·.2)

end EntryAttributes

namespace AttributeNames

/-- A user is written as the account; what it belongs to is not. -/
def formatUser (names : AttributeNames) (user : User) : String := names.formatAccount user.account

def formatGroup (names : AttributeNames) (group : Group) : String := names.formatDn group.name

instance : ToString User := ⟨formatUser {}⟩

instance : ToString Group := ⟨formatGroup {}⟩

def parseUser (names : AttributeNames) (s : String) : Except DirectoryError User := do
  pure { account := ← names.parseAccount s }

def parseGroup (names : AttributeNames) (s : String) : Except DirectoryError Group := do
  pure { name := ← names.parseDn s }

def overrideWith (value old : Option String) : Option String := value <|> old

/-- The account of a search result: the components of its entry name, with account name, common
name and e-mail address taken from the attributes where they are there. -/
def accountOfEntry (names : AttributeNames) (entryDn : String) (attributes : EntryAttributes) :
    Account :=
  let parsed : Account :=
    if Text.isBlank entryDn then {} else (names.parseAccount entryDn).toOption.getD {}
  { name := { parsed.name with
      commonName := overrideWith (attributes.first? names.commonName) parsed.name.commonName }
    accountName := overrideWith (attributes.first? names.accountName) parsed.accountName
    email := overrideWith (attributes.first? names.email) parsed.email
    entryDn := nonempty? (some entryDn) }

/-- The user of a search result, with a group for each value of the membership attribute. -/
def userOfEntry (names : AttributeNames) (entryDn : String) (attributes : EntryAttributes) : User :=
  ((attributes.values names.memberOf).filterMap fun s => (names.parseDn s).toOption).foldl
    User.addGroup { account := names.accountOfEntry entryDn attributes }

/-- The group of a search result, with a member for each value of the member attribute. -/
def groupOfEntry (names : AttributeNames) (entryDn : String) (attributes : EntryAttributes) :
    Group :=
  let parsed := (names.parseDn entryDn).toOption.getD {}
  ((attributes.rangedValues names.member).filterMap fun s =>
      (names.parseAccount s).toOption).foldl Group.addMember
    { name := { parsed with
        commonName := overrideWith (attributes.first? names.commonName) parsed.commonName } }

end AttributeNames

def User.same (a b : User) : Bool := Text.sameLowercase (toString a) (toString b)

def Group.same (a b : Group) : Bool := Text.sameLowercase (toString a) (toString b)

end DirectoryAuth
