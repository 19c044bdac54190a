import DirectoryAuth.Proofs.Dn.RoundTrip

/-! The readers of names, of users and of groups go through the same components. The reader of users
takes the account name and the e-mail address out of them; as long as these do not go by the name of
a part, it does with the name just what the others do. -/
namespace DirectoryAuth.AttributeNames
open Dn (Component)
open Text (eqIgnoreAsciiCase eqIgnoreAsciiCase_comm eqIgnoreAsciiCase_congr)

/-- No part of a name goes by the name of the account name or of the e-mail address. -/
def PartsApart (names : AttributeNames) : Prop :=
  ∀ part ∈ names.partNames, eqIgnoreAsciiCase part names.accountName = false ∧
    eqIgnoreAsciiCase part names.email = false

instance (names : AttributeNames) : Decidable names.PartsApart :=
  inferInstanceAs (Decidable (∀ part ∈ names.partNames,
    eqIgnoreAsciiCase part names.accountName = false ∧ eqIgnoreAsciiCase part names.email = false))

variable {names : AttributeNames}

/-- A component that goes by another name than the parts is passed over. -/
theorem applyComponent_eq_self {component : Component}
    (h : ∀ part ∈ names.partNames, eqIgnoreAsciiCase component.name part = false)
    (dn : DistinguishedName) : names.applyComponent dn component = dn := by
  have hcommon := h names.commonName (by simp [partNames])
  have hunit := h names.organizationalUnit (by simp [partNames])
  have hdomain := h names.domainComponent (by simp [partNames])
  simp [applyComponent, hcommon, hunit, hdomain]

section
variable (h : names.PartsApart)
include h

/-- A component that is taken for the account name or the e-mail address is no part of the name. -/
theorem PartsApart.name_applyAccountComponent (account : Account) (component : Component) :
    (names.applyAccountComponent account component).name =
      names.applyComponent account.name component := by
  rw [applyAccountComponent]
  split
  · next hname =>
    rw [applyComponent_eq_self]
    intro part hpart
    rw [eqIgnoreAsciiCase_congr hname, eqIgnoreAsciiCase_comm]
    exact (h part hpart).1
  · split
    · next hname =>
      rw [applyComponent_eq_self]
      intro part hpart
      rw [eqIgnoreAsciiCase_congr hname, eqIgnoreAsciiCase_comm]
      exact (h part hpart).2
    · rfl

theorem PartsApart.name_foldl_applyAccountComponent (components : List Component)
    (account : Account) : (components.foldl names.applyAccountComponent account).name =
      components.foldl names.applyComponent account.name :=
  (List.foldl_hom Account.name fun account component =>
    (h.name_applyAccountComponent account component).symm).symm

end

/-- Names, users and groups are read from the same texts, all but the empty one, and with the same
name, whatever tokens stand in the text. -/
theorem readers_agree (h : names.PartsApart) (s : String) :
    (s = "" → names.parseDn s = .error (.invalidDn "DN must not be empty") ∧
      names.parseUser s = .error (.invalidDn "DN must not be empty") ∧
      names.parseGroup s = .error (.invalidDn "DN must not be empty")) ∧
    (s ≠ "" → ∃ dn user group, names.parseDn s = .ok dn ∧ names.parseUser s = .ok user ∧
      names.parseGroup s = .ok group ∧ user.account.name = dn ∧ group.name = dn) := by
  rw [parseDn_eq, parseUser_eq, parseGroup_eq, Dn.readComponents]
  constructor
  · intro hempty
    rw [if_pos hempty]
    exact ⟨rfl, rfl, rfl⟩
  · intro hne
    rw [if_neg hne]
    exact ⟨_, _, _, rfl, rfl, rfl, h.name_foldl_applyAccountComponent _ {}, rfl⟩

/-- Account name and e-mail address under one name; a repeated common name, a token that is no
component, one of an unknown attribute, and a backslash that escapes nothing. -/
theorem readers_agree_malformed :
    let names : AttributeNames := { accountName := "uid", email := "UID" }
    let s := "cn=a,junk,CN = b\\,c,uid=x,o=y,ou=,=,dc=\\"
    let dn : DistinguishedName := ⟨some " b,c", [""], ["\\"]⟩
    names.PartsApart ∧ names.parseDn s = .ok dn ∧ ∃ user group, names.parseUser s = .ok user ∧
      names.parseGroup s = .ok group ∧ user.account.name = dn ∧ group.name = dn := by
  intro names s dn
  have hapart : names.PartsApart := by decide
  obtain ⟨dn', user, group, hdn, huser, hgroup, hname, hname'⟩ :=
    (readers_agree hapart s).2 (by decide)
  have hread : (names.parseDn s).toOption = some dn := by decide +kernel
  rw [hdn] at hread
  obtain rfl := Option.some.inj hread
  exact ⟨hapart, hdn, user, group, huser, hgroup, hname, hname'⟩

end DirectoryAuth.AttributeNames
