import DirectoryAuth.Proofs.Dn.RoundTrip
import DirectoryAuth.Proofs.Except

/-! Texts joined by a comma. The components of the first text come before those of the second, so
places add up and of the values that an entry has only once the later one counts. This needs the
first text to end outside an escape, or else its last backslash would take the comma for itself. -/
namespace DirectoryAuth

/-- The name with the components of `later` after its own. -/
def DistinguishedName.followedBy (dn later : DistinguishedName) : DistinguishedName where
  commonName := later.commonName <|> dn.commonName
  organizationalUnits := dn.organizationalUnits ++ later.organizationalUnits
  domainComponents := dn.domainComponents ++ later.domainComponents

/-- The account with the components of `later` after its own. -/
def Account.followedBy (account later : Account) : Account where
  name := account.name.followedBy later.name
  accountName := later.accountName <|> account.accountName
  email := later.email <|> account.email
  entryDn := later.entryDn <|> account.entryDn

theorem DistinguishedName.followedBy_empty (dn : DistinguishedName) : dn.followedBy {} = dn := by
  simp [followedBy]

theorem Account.followedBy_empty (account : Account) : account.followedBy {} = account := by
  simp [followedBy, DistinguishedName.followedBy_empty]

namespace Dn

theorem readComponents_of_ne {s : String} (h : s ≠ "") :
    readComponents s = .ok ((tokens s.toList).filterMap componentOfToken?) := by
  rw [readComponents, if_neg h]

/-- The components of both texts, whatever stands in them. -/
theorem readComponents_joined {s t : String} (hs : s ≠ "") (ht : t ≠ "")
    (hclosed : endsOpen s.toList = false) : ∃ first second, readComponents s = .ok first ∧
      readComponents t = .ok second ∧ readComponents (s ++ "," ++ t) = .ok (first ++ second) := by
  have hjoined : s ++ "," ++ t ≠ "" := by simp
  have hchars : (s ++ "," ++ t).toList = s.toList ++ ',' :: t.toList := by simp
  refine ⟨_, _, readComponents_of_ne hs, readComponents_of_ne ht, ?_⟩
  rw [readComponents_of_ne hjoined, hchars, tokens_append_comma hclosed, List.filterMap_append]

end Dn

namespace AttributeNames
open Dn (Component)

variable (names : AttributeNames)

/-- One more component goes to the later name. -/
theorem applyComponent_followedBy (dn later : DistinguishedName) (component : Component) :
    names.applyComponent (dn.followedBy later) component =
      dn.followedBy (names.applyComponent later component) := by
  simp only [applyComponent]
  split
  · rfl
  · split
    · simp [DistinguishedName.followedBy, DistinguishedName.addOrganizationalUnit]
    · split
      · simp [DistinguishedName.followedBy, DistinguishedName.addDomainComponent]
      · rfl

theorem applyAccountComponent_followedBy (account later : Account) (component : Component) :
    names.applyAccountComponent (account.followedBy later) component =
      account.followedBy (names.applyAccountComponent later component) := by
  simp only [applyAccountComponent]
  split
  · rfl
  · split
    · rfl
    · rw [Account.followedBy, applyComponent_followedBy]
      rfl

/-- Components are read after a name just as they are read alone. -/
theorem foldl_applyComponent (components : List Component) (dn : DistinguishedName) :
    components.foldl names.applyComponent dn =
      dn.followedBy (components.foldl names.applyComponent {}) := by
  have hrun : components.foldl names.applyComponent (dn.followedBy {}) =
      dn.followedBy (components.foldl names.applyComponent {}) :=
    List.foldl_hom dn.followedBy (names.applyComponent_followedBy dn)
  rwa [DistinguishedName.followedBy_empty] at hrun

theorem foldl_applyAccountComponent (components : List Component) (account : Account) :
    components.foldl names.applyAccountComponent account =
      account.followedBy (components.foldl names.applyAccountComponent {}) := by
  have hrun : components.foldl names.applyAccountComponent (account.followedBy {}) =
      account.followedBy (components.foldl names.applyAccountComponent {}) :=
    List.foldl_hom account.followedBy (names.applyAccountComponent_followedBy account)
  rwa [Account.followedBy_empty] at hrun

/-- Reading a joined text gives what its two parts give. Places come in order, first those of the
first text, and common name, account name and e-mail address are those of the second text where it
sets them. -/
theorem parse_joined {s t : String} (hs : s ≠ "") (ht : t ≠ "")
    (hclosed : Dn.endsOpen s.toList = false) :
    (∃ first second, names.parseDn s = .ok first ∧ names.parseDn t = .ok second ∧
      names.parseDn (s ++ "," ++ t) = .ok (first.followedBy second)) ∧
    ∃ first second : User, names.parseUser s = .ok first ∧ names.parseUser t = .ok second ∧
      names.parseUser (s ++ "," ++ t) =
        .ok { account := first.account.followedBy second.account, groups := [] } := by
  obtain ⟨first, second, hfirst, hsecond, hjoined⟩ := Dn.readComponents_joined hs ht hclosed
  simp only [parseDn_eq, parseUser_eq, hfirst, hsecond, hjoined]
  constructor
  · refine ⟨_, _, rfl, rfl, ?_⟩
    rw [← foldl_applyComponent, ← List.foldl_append]
    rfl
  · refine ⟨_, _, rfl, rfl, ?_⟩
    rw [← foldl_applyAccountComponent, ← List.foldl_append]
    rfl

/-- Two backslashes before the comma, one at the very end, and a common name that only the first
text sets. -/
theorem parse_joined_backslashes :
    let names : AttributeNames := {}
    let s := "mail=a,CN=x,ou=y\\\\"
    let t := "mail=b,,ou=z\\,,sAMAccountName=c\\"
    Dn.endsOpen s.toList = false ∧
      names.parseDn (s ++ "," ++ t) = .ok ⟨some "x", ["y\\", "z,"], []⟩ ∧
      names.parseUser (s ++ "," ++ t) = .ok { account :=
        { name := ⟨some "x", ["y\\", "z,"], []⟩
          accountName := some "c\\"
          email := some "b" } } := by
  intro names s t
  have hclosed : Dn.endsOpen s.toList = false := by decide
  have hdn : names.parseDn s = .ok ⟨some "x", ["y\\"], []⟩ := by decide +kernel
  have hlater : names.parseDn t = .ok ⟨none, ["z,"], []⟩ := by decide +kernel
  have huser : names.parseUser s = .ok { account :=
    { name := ⟨some "x", ["y\\"], []⟩, email := some "a" } } := by decide +kernel
  have hother : names.parseUser t = .ok { account :=
    { name := ⟨none, ["z,"], []⟩, accountName := some "c\\", email := some "b" } } := by
    decide +kernel
  obtain ⟨⟨_, _, hfirst, hsecond, hname⟩, _, _, hfirst', hsecond', haccount⟩ :=
    names.parse_joined (by decide : s ≠ "") (by decide : t ≠ "") hclosed
  obtain rfl := Except.ok.inj (hdn.symm.trans hfirst)
  obtain rfl := Except.ok.inj (hlater.symm.trans hsecond)
  obtain rfl := Except.ok.inj (huser.symm.trans hfirst')
  obtain rfl := Except.ok.inj (hother.symm.trans hsecond')
  exact ⟨hclosed, hname, haccount⟩

/-- An open escape takes the comma into the value. -/
example : ({} : AttributeNames).parseDn ("cn=a\\" ++ "," ++ "ou=b") =
    .ok ⟨some "a,ou=b", [], []⟩ := by decide +kernel

end AttributeNames

end DirectoryAuth
