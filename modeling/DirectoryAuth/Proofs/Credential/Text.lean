import DirectoryAuth.Proofs.Credential.Slot
import DirectoryAuth.Proofs.Except

/-! The written form of a credential. Usernames are written as they are, so the form of two
credentials differs only because what follows a username has exactly two colons; reading goes by
the first two colons instead and refuses whatever it cannot give back. -/
namespace DirectoryAuth.Credential

/-- A credential that its written form stands for. -/
structure Complete (c : Credential) : Prop where
  username_ne : c.username ≠ ""
  colon_not_mem : ':' ∉ c.username.toList
  salt_ne : c.salt ≠ []
  digest_ne : c.digest ≠ none

theorem Complete.exists_digest {c : Credential} (h : c.Complete) :
    ∃ digest, c.digest = some digest ∧ digest ≠ [] := by
  obtain ⟨digest, hdigest⟩ := Option.ne_none_iff_exists'.mp h.digest_ne
  exact ⟨digest, hdigest, fun hnil => c.digest_ne_nil (hnil ▸ hdigest)⟩

theorem text_eq (c : Credential) : c.text =
    c.username ++ ":" ++ Base64.encode c.salt ++ ":" ++ Base64.encode (c.digest.getD []) := by
  have hsalt : c.saltText?.getD "" = Base64.encode c.salt := by
    unfold saltText? Base64.encodeNonempty?
    split
    · next hnil => rw [hnil]; rfl
    · rfl
  have hdigest : c.digestText?.getD "" = Base64.encode (c.digest.getD []) := by
    rw [digestText?_eq]
    cases c.digest <;> rfl
  rw [text, hsalt, hdigest]

theorem toList_text (c : Credential) : c.text.toList = c.username.toList ++
    ':' :: (Base64.encodeChars c.salt ++ ':' :: Base64.encodeChars (c.digest.getD [])) := by
  have hcolon : ":".toList = [':'] := rfl
  simp [text_eq, Base64.encode, String.toList_append, hcolon]

/-- Since no digest is empty, the empty byte string can stand for an absent one. -/
theorem digest_eq_of_getD {a b : Credential} (h : a.digest.getD [] = b.digest.getD []) :
    a.digest = b.digest := by
  have ha := a.digest_ne_nil
  have hb := b.digest_ne_nil
  cases hda : a.digest <;> cases hdb : b.digest <;> simp_all

/-- Different credentials are never written alike: no colon follows the two that are written. -/
theorem text_injective {a b : Credential} (h : a.text = b.text) : a = b := by
  have hlist : ∀ c : Credential, c.text.toList = (c.username.toList ++
      ':' :: Base64.encodeChars c.salt) ++ ':' :: Base64.encodeChars (c.digest.getD []) := by
    intro c
    simp [toList_text]
  have hchars := congrArg String.toList h
  rw [hlist a, hlist b, Text.append_cons_inj (Base64.colon_not_mem_encodeChars _)
    (Base64.colon_not_mem_encodeChars _), Text.append_cons_inj
    (Base64.colon_not_mem_encodeChars _) (Base64.colon_not_mem_encodeChars _)] at hchars
  obtain ⟨⟨husername, hsalt⟩, hdigest⟩ := hchars
  have hu : a.username = b.username := String.toList_inj.mp husername
  have hs : a.salt = b.salt := Base64.encodeChars_injective hsalt
  have hd : a.digest = b.digest := digest_eq_of_getD (Base64.encodeChars_injective hdigest)
  cases a
  cases b
  simp_all

theorem cutText_eq_ok_iff {s username salt digest : String} :
    cutText s = .ok (username, salt, digest) ↔
      s.toList = username.toList ++ ':' :: (salt.toList ++ ':' :: digest.toList) ∧
        ':' ∉ username.toList ∧ ':' ∉ salt.toList ∧ username ≠ "" ∧ salt ≠ "" ∧ digest ≠ "" := by
  constructor
  · intro h
    unfold cutText at h
    split at h
    · next name rest hcut =>
      split at h
      · contradiction
      next hname =>
      split at h
      · next salt' digest' hcut' =>
        split at h
        · contradiction
        · next hparts =>
          obtain ⟨rfl, rfl, rfl⟩ : name = username ∧ salt' = salt ∧ digest' = digest := by
            simpa using Except.ok.inj h
          obtain ⟨hs, hcolon⟩ := Text.splitAt?_eq_some_iff.mp hcut
          obtain ⟨hrest, hcolon'⟩ := Text.splitAt?_eq_some_iff.mp hcut'
          rw [hrest] at hs
          exact ⟨hs, hcolon, hcolon', hname, not_or.mp hparts⟩
      · contradiction
    · contradiction
  · rintro ⟨hs, hcolon, hcolon', hname, hsalt, hdigest⟩
    have hrest : ∃ rest : String, rest.toList = salt.toList ++ ':' :: digest.toList :=
      ⟨_, String.toList_ofList⟩
    obtain ⟨rest, hrest⟩ := hrest
    have hcut : Text.splitAt? ':' s = some (username, rest) :=
      Text.splitAt?_eq_some_iff.mpr ⟨hrest ▸ hs, hcolon⟩
    have hcut' : Text.splitAt? ':' rest = some (salt, digest) :=
      Text.splitAt?_eq_some_iff.mpr ⟨hrest, hcolon'⟩
    simp [cutText, hcut, hcut', hname, hsalt, hdigest]

theorem cutText_error {s : String} {e : CredentialError} (h : cutText s = .error e) :
    e.code = "MalformedCredential" := by
  unfold cutText at h
  split at h
  · split at h
    · cases h; rfl
    · split at h
      · split at h
        · cases h; rfl
        · contradiction
      · cases h; rfl
  · cases h; rfl

theorem readBase64_eq_ok_iff {text : String} (hne : text ≠ "") {bytes : Option Bytes} :
    readBase64 text = .ok bytes ↔ ∃ b, b ≠ [] ∧ bytes = some b ∧ text = Base64.encode b := by
  rw [← Base64.read_eq_ok_iff hne, readBase64]
  cases Base64.read text <;> simp [Except.mapError]

theorem readBase64_error {text : String} {e : CredentialError} (h : readBase64 text = .error e) :
    e.code = "InvalidBase64" := by
  unfold readBase64 at h
  cases hread : Base64.read text with
  | ok bytes => rw [hread] at h; contradiction
  | error invalid =>
    rw [hread] at h
    cases h
    rfl

theorem digest_ofDigest {username : String} {salt digest : Bytes} (h : digest ≠ []) :
    (ofDigest username salt (some digest)).digest = some digest := by
  have hpresent : some digest ≠ some [] := by simpa using h
  exact Password.present_eq_self hpresent

/-- Every credential is the one of its own parts. -/
theorem ofDigest_self (c : Credential) : ofDigest c.username c.salt c.digest = c := by
  cases c with
  | mk username salt digest hne => simp [ofDigest, Password.present_eq_self hne]

/-- A text is read if its three parts are a username and two byte strings in writing. -/
theorem parse_eq_ok_iff {s : String} {c : Credential} : parse s = .ok c ↔
    ∃ username salt digest, cutText s = .ok (username, Base64.encode salt, Base64.encode digest) ∧
      salt ≠ [] ∧ digest ≠ [] ∧ ofDigest username salt (some digest) = c := by
  constructor
  · intro h
    obtain ⟨⟨username, saltText, digestText⟩, hcut, hparts⟩ := bind_eq_ok_iff.mp h
    obtain ⟨salt, hsalt, hrest⟩ := bind_eq_ok_iff.mp hparts
    obtain ⟨digest, hdigest, hc⟩ := bind_eq_ok_iff.mp hrest
    obtain ⟨-, -, -, -, hsaltText, hdigestText⟩ := cutText_eq_ok_iff.mp hcut
    obtain ⟨saltBytes, hsaltne, rfl, rfl⟩ := (readBase64_eq_ok_iff hsaltText).mp hsalt
    obtain ⟨digestBytes, hdigestne, rfl, rfl⟩ := (readBase64_eq_ok_iff hdigestText).mp hdigest
    exact ⟨username, saltBytes, digestBytes, hcut, hsaltne, hdigestne, Except.ok.inj hc⟩
  · rintro ⟨username, salt, digest, hcut, hsalt, hdigest, rfl⟩
    obtain ⟨-, -, -, -, hsaltText, hdigestText⟩ := cutText_eq_ok_iff.mp hcut
    refine bind_eq_ok_iff.mpr ⟨_, hcut, ?_⟩
    refine bind_eq_ok_iff.mpr ⟨some salt, ?_, ?_⟩
    · exact (readBase64_eq_ok_iff hsaltText).mpr ⟨salt, hsalt, rfl, rfl⟩
    refine bind_eq_ok_iff.mpr ⟨some digest, ?_, rfl⟩
    exact (readBase64_eq_ok_iff hdigestText).mpr ⟨digest, hdigest, rfl, rfl⟩

theorem parse_error {s : String} {e : CredentialError} (h : parse s = .error e) :
    e.code = "MalformedCredential" ∨ e.code = "InvalidBase64" := by
  rcases bind_eq_error_iff.mp h with hcut | ⟨parts, -, hparts⟩
  · exact .inl (cutText_error hcut)
  rcases bind_eq_error_iff.mp hparts with hsalt | ⟨salt, -, hrest⟩
  · exact .inr (readBase64_error hsalt)
  rcases bind_eq_error_iff.mp hrest with hdigest | ⟨digest, -, hc⟩
  · exact .inr (readBase64_error hdigest)
  · contradiction

/-- What has been read is complete, and the text that it was read from is its own. -/
theorem complete_of_parse {s : String} {c : Credential} (h : parse s = .ok c) :
    c.Complete ∧ c.text = s := by
  obtain ⟨username, salt, digest, hcut, hsalt, hdigest, rfl⟩ := parse_eq_ok_iff.mp h
  obtain ⟨hs, hcolon, -, hname, -, -⟩ := cutText_eq_ok_iff.mp hcut
  constructor
  · exact ⟨hname, hcolon, hsalt, by simp [digest_ofDigest hdigest]⟩
  · rw [← String.toList_inj, toList_text, digest_ofDigest hdigest, hs]
    simp [ofDigest]

/-- A complete credential is read back from its written form. -/
theorem Complete.parse_text {c : Credential} (h : c.Complete) : parse c.text = .ok c := by
  obtain ⟨digest, hdigest, hne⟩ := h.exists_digest
  have hself : ofDigest c.username c.salt (some digest) = c := hdigest ▸ ofDigest_self c
  refine parse_eq_ok_iff.mpr ⟨c.username, c.salt, digest, ?_, h.salt_ne, hne, hself⟩
  rw [cutText_eq_ok_iff, toList_text, hdigest]
  have hcolon := Base64.colon_not_mem_encodeChars c.salt
  simpa using ⟨h.colon_not_mem, hcolon, h.username_ne, h.salt_ne, hne⟩

/-- The written form of a credential is read as that credential or not at all. It is read exactly
if the username is there and has no colon, and salt and digest are there. -/
theorem parse_text_eq_ok_iff (c : Credential) :
    (parse c.text = .ok c ↔
      c.username ≠ "" ∧ ':' ∉ c.username.toList ∧ c.salt ≠ [] ∧ c.digest ≠ none) ∧
    (parse c.text = .ok c ∨ ∃ e, parse c.text = .error e ∧
      (e.code = "MalformedCredential" ∨ e.code = "InvalidBase64")) := by
  constructor
  · constructor
    · intro h
      obtain ⟨hcomplete, -⟩ := complete_of_parse h
      exact ⟨hcomplete.username_ne, hcomplete.colon_not_mem, hcomplete.salt_ne,
        hcomplete.digest_ne⟩
    · rintro ⟨husername, hcolon, hsalt, hdigest⟩
      have hcomplete : c.Complete := ⟨husername, hcolon, hsalt, hdigest⟩
      exact hcomplete.parse_text
  · cases h : parse c.text with
    | error e => exact .inr ⟨e, rfl, parse_error h⟩
    | ok other =>
      obtain ⟨-, htext⟩ := complete_of_parse h
      rw [text_injective htext]
      exact .inl rfl

/-- A colon in a username shifts all that follows it. -/
example : parse (ofDigest "eve:QUJD" [1] (some [2])).text = .error (.invalidBase64 "AQ==:Ag==") :=
  rfl

/-- The format is canonical: whatever is read is written as it was, so no other text is read as
the same credential, and it has all that a key needs. -/
theorem text_of_parse {s : String} {c : Credential} (h : parse s = .ok c) :
    c.text = s ∧ c.username ≠ "" ∧ ':' ∉ c.username.toList ∧ c.salt ≠ [] ∧
      (∃ digest, c.digest = some digest ∧ digest ≠ []) ∧
      (∀ t, parse t = .ok c → t = s) ∧ ∃ key, c.cacheKey = .ok key := by
  obtain ⟨hcomplete, htext⟩ := complete_of_parse h
  obtain ⟨digest, hdigest, hne⟩ := hcomplete.exists_digest
  have hunique : ∀ t, parse t = .ok c → t = s := by
    intro t ht
    obtain ⟨-, htext'⟩ := complete_of_parse ht
    rw [← htext', htext]
  have hslot : c.slot? = some (c.username, digest) := by
    simp [slot?, hcomplete.username_ne, hdigest]
  exact ⟨htext, hcomplete.username_ne, hcomplete.colon_not_mem, hcomplete.salt_ne,
    ⟨digest, hdigest, hne⟩, hunique, _, cacheKey_of_slot? hslot⟩

/-- A username that looks like a salt, before salt and digest with both kinds of padding. -/
theorem text_of_parse_padded :
    let s := "c2FsdA== bob:/w==:AAE="
    let c := ofDigest "c2FsdA== bob" [255] (some [0, 1])
    parse s = .ok c ∧ c.text = s ∧ c.username ≠ "" ∧ ':' ∉ c.username.toList ∧ c.salt ≠ [] ∧
      (∃ digest, c.digest = some digest ∧ digest ≠ []) ∧
      (∀ t, parse t = .ok c → t = s) ∧ ∃ key, c.cacheKey = .ok key := by
  have hread : parse "c2FsdA== bob:/w==:AAE=" =
      .ok (ofDigest "c2FsdA== bob" [255] (some [0, 1])) := rfl
  exact ⟨hread, text_of_parse hread⟩

end DirectoryAuth.Credential
