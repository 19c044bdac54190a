import DirectoryAuth.Proofs.Dn.Equality

/-! The name that an account is bound as, rebuilt from its components: the name of the account where
its common name is not blank, and otherwise the account as it is written without a common name. It
is read back as just that, so no value passes for another component. -/
namespace DirectoryAuth.AttributeNames
open Dn (Component Readable)

/-- The account without its common name. -/
def withoutCommonName (account : Account) : Account :=
  { account with name := { account.name with commonName := none } }

variable {names : AttributeNames} {account : Account}

theorem authenticationComponents_of_hasCommonName (h : account.name.hasCommonName = true) :
    names.authenticationComponents account = names.dnComponents account.name := by
  rw [authenticationComponents, if_pos h, dnComponents]

/-- A blank common name is left out, also one that is not empty. -/
theorem authenticationComponents_of_not_hasCommonName (h : account.name.hasCommonName = false) :
    names.authenticationComponents account =
      names.accountComponents (withoutCommonName account) := by
  rw [authenticationComponents, h]
  rfl

/-- An account has nothing to be bound as if it has no places and neither of its names. -/
theorem authenticationComponents_eq_nil_iff : names.authenticationComponents account = [] ↔
    account.name.hasCommonName = false ∧ nonempty? account.accountName = none ∧
      account.name.organizationalUnits = [] ∧ account.name.domainComponents = [] := by
  cases hcommon : account.name.hasCommonName with
  | true =>
    have hvalue : account.name.commonName ≠ none := by
      intro hnone
      rw [DistinguishedName.hasCommonName, hnone] at hcommon
      contradiction
    rw [authenticationComponents_of_hasCommonName hcommon, dnComponents_eq_nil_iff,
      nonempty?_of_hasText hcommon]
    simp [hvalue]
  | false =>
    rw [authenticationComponents_of_not_hasCommonName hcommon, accountComponents_eq_nil_iff,
      dnComponents_eq_nil_iff]
    simp [withoutCommonName, nonempty?]

theorem isBlank_authenticationDn_iff : Text.isBlank (names.authenticationDn account) = true ↔
    account.name.hasCommonName = false ∧ nonempty? account.accountName = none ∧
      account.name.organizationalUnits = [] ∧ account.name.domainComponents = [] := by
  rw [authenticationDn, Dn.isBlank_textOf_iff, authenticationComponents_eq_nil_iff]

section
variable (h : names.WellFormed)
include h

theorem WellFormed.readable_authenticationComponents :
    ∀ component ∈ names.authenticationComponents account, Readable component.name := by
  cases hcommon : account.name.hasCommonName with
  | true =>
    rw [authenticationComponents_of_hasCommonName hcommon]
    exact h.readable_dnComponents
  | false =>
    rw [authenticationComponents_of_not_hasCommonName hcommon]
    exact h.readable_accountComponents

theorem WellFormed.foldl_authenticationComponents (account : Account) :
    (names.authenticationComponents account).foldl names.applyAccountComponent {} =
      if account.name.hasCommonName then { name := account.name }
      else { name := { account.name with commonName := none }
             accountName := nonempty? account.accountName } := by
  cases hcommon : account.name.hasCommonName with
  | true =>
    rw [authenticationComponents_of_hasCommonName hcommon,
      h.foldl_applyAccountComponent fun _ => name_mem_of_mem_dnComponents, h.foldl_dnComponents,
      nonempty?_of_hasText hcommon]
    rfl
  | false =>
    rw [authenticationComponents_of_not_hasCommonName hcommon, h.foldl_accountComponents]
    rfl

end

/-- The name to bind as cannot be steered by a value. It is read back as the places of the user, in
order, with the common name if that is not blank and otherwise with the account name if that is not
empty, and with nothing else; it is empty if there is none of these. -/
theorem roundTrip_authenticationDn (h : names.WellFormed) (user : User) :
    let name := user.account.name
    RoundTrip (names.authenticationDn user.account) names.parseUser
      { account :=
        { name := ⟨if name.hasCommonName then name.commonName else none,
            name.organizationalUnits, name.domainComponents⟩
          accountName := if name.hasCommonName then none else nonempty? user.account.accountName
          email := none
          entryDn := none }
        groups := [] }
      (name.hasCommonName = false ∧ nonempty? user.account.accountName = none ∧
        name.organizationalUnits = [] ∧ name.domainComponents = []) ∧
    (name.hasCommonName = true → names.authenticationDn user.account = names.formatDn name) ∧
    (name.hasCommonName = false → names.authenticationDn user.account =
      names.formatUser { user with account := withoutCommonName user.account }) := by
  intro name
  refine ⟨?_, ?_, ?_⟩
  · refine roundTrip_textOf (names.authenticationComponents user.account) names.parseUser _
      names.parseUser_eq h.readable_authenticationComponents ?_ authenticationComponents_eq_nil_iff
    rw [h.foldl_authenticationComponents]
    cases user.account.name.hasCommonName <;> rfl
  · intro hcommon
    rw [authenticationDn, authenticationComponents_of_hasCommonName hcommon, formatDn]
  · intro hcommon
    rw [authenticationDn, authenticationComponents_of_not_hasCommonName hcommon, formatUser,
      formatAccount]

/-- A common name of one blank, an account name and a unit that look like more components, an empty
unit and a trailing backslash. -/
theorem roundTrip_authenticationDn_delimiters :
    let names : AttributeNames := {}
    let account : Account :=
      { name := ⟨some " ", ["x,dc=org", ""], ["a\\"]⟩
        accountName := some "bob,cn=root"
        email := some "bob@a" }
    names.WellFormed ∧
      names.authenticationDn account = "sAMAccountName=bob\\,cn=root,ou=x\\,dc=org,ou=,dc=a\\\\" ∧
      names.parseUser (names.authenticationDn account) = .ok { account :=
        { name := ⟨none, ["x,dc=org", ""], ["a\\"]⟩, accountName := some "bob,cn=root" } } := by
  intro names account
  exact ⟨wellFormed_default, by decide,
    (roundTrip_authenticationDn wellFormed_default { account := account }).1.parse_eq (by decide)⟩

end DirectoryAuth.AttributeNames
