import DirectoryAuth.Proofs.Except
import DirectoryAuth.Proofs.Url.Scheme
import DirectoryAuth.Settings.Validation

/-! Which settings of a directory pass. The URL of the server is held against its scheme and not
against two slashes after it, so a text that names no server passes as well. -/
namespace DirectoryAuth.LdapSettings
open Url (BeginsWith)

/-- The form that the message of a refused scheme asks for. -/
def HasServerForm (s : LdapSettings) : Prop :=
  BeginsWith "ldap://" s.serverUrl ∨ BeginsWith "ldaps://" s.serverUrl

instance (s : LdapSettings) : Decidable s.HasServerForm := inferInstanceAs (Decidable (_ ∨ _))

variable {s : LdapSettings}

theorem checkUrl_eq_ok_iff : s.checkUrl = .ok () ↔
    Url.scheme s.serverUrl = .ok "ldap" ∨ Url.scheme s.serverUrl = .ok "ldaps" := by
  rw [checkUrl]
  constructor
  · intro h
    split at h
    · contradiction
    · split at h
      · contradiction
      · next scheme hscheme =>
        split at h
        · next hname =>
          rw [hscheme]
          exact hname.imp (congrArg _) (congrArg _)
        · contradiction
  · intro h
    have hblank : Text.isBlank s.serverUrl = false :=
      h.elim Url.isBlank_eq_false_of_scheme Url.isBlank_eq_false_of_scheme
    rw [if_neg (by simp [hblank])]
    rcases h with h | h <;> simp [h]

theorem checkUrl_eq_ok_iff_beginsWith : s.checkUrl = .ok () ↔
    (BeginsWith "ldap:" s.serverUrl ∨ BeginsWith "ldaps:" s.serverUrl) ∧
      (s.HasServerForm → ∃ scheme, Url.scheme s.serverUrl = .ok scheme) := by
  have hldap := @Url.scheme_eq_ok_iff_beginsWith s.serverUrl "ldap" (by decide) rfl
  have hldaps := @Url.scheme_eq_ok_iff_beginsWith s.serverUrl "ldaps" (by decide) rfl
  rw [checkUrl_eq_ok_iff]
  constructor
  · rintro (h | h)
    · exact ⟨.inl (hldap.mp h).1, fun _ => ⟨_, h⟩⟩
    · exact ⟨.inr (hldaps.mp h).1, fun _ => ⟨_, h⟩⟩
  · rintro ⟨h | h, hserver⟩
    · exact .inl (hldap.mpr ⟨h, fun hslashes => hserver (.inl hslashes)⟩)
    · exact .inr (hldaps.mpr ⟨h, fun hslashes => hserver (.inr hslashes)⟩)

/-- Settings pass if their URL has one of the two schemes, if it is a URL in case a server follows
two slashes, and if there are a name to bind as and an attribute for account names. -/
theorem validate_eq_ok_iff (s : LdapSettings) : s.validate = .ok () ↔
    (BeginsWith "ldap:" s.serverUrl ∨ BeginsWith "ldaps:" s.serverUrl) ∧
      (s.HasServerForm → ∃ scheme, Url.scheme s.serverUrl = .ok scheme) ∧
      Text.isBlank s.bindDn = false ∧ Text.isBlank s.attributes.accountName = false := by
  rw [validate, bind_eq_ok_iff, ← and_assoc, ← checkUrl_eq_ok_iff_beginsWith]
  constructor
  · rintro ⟨⟨⟩, hurl, hrest⟩
    refine ⟨hurl, ?_⟩
    cases hdn : Text.isBlank s.bindDn with
    | true =>
      rw [hdn] at hrest
      contradiction
    | false =>
      rw [hdn] at hrest
      cases haccount : Text.isBlank s.attributes.accountName with
      | true =>
        rw [haccount] at hrest
        contradiction
      | false => exact ⟨rfl, rfl⟩
  · rintro ⟨hurl, hdn, haccount⟩
    refine ⟨(), hurl, ?_⟩
    rw [hdn, haccount]
    rfl

/-- A scheme is enough: no slashes and no server have to follow it. -/
theorem serverless_url_passes : ¬∀ s : LdapSettings, s.validate = .ok () → s.HasServerForm :=
  fun h => absurd (h { serverUrl := "ldap:x", bindDn := "cn=svc" } (by decide)) (by decide)

end DirectoryAuth.LdapSettings
