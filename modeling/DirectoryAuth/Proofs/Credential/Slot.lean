import DirectoryAuth.Credential.Basic
import DirectoryAuth.Proofs.Encoding.Base64
import DirectoryAuth.Proofs.Text.Split

/-! What repeated attempts with one credential share: a username that is not empty, and a digest.
The text key of a credential tells two such pairs apart. -/
namespace DirectoryAuth.Credential

/-- A username with a digest. -/
abbrev Slot := String × Bytes

/-- The username and the digest of a credential, if it has both. -/
def slot? (c : Credential) : Option Slot :=
  if c.username = "" then none else c.digest.map fun digest => (c.username, digest)

theorem slot?_eq_none_iff {c : Credential} :
    c.slot? = none ↔ c.username = "" ∨ c.digest = none := by
  by_cases hname : c.username = ""
  · simp [slot?, hname]
  · simp [slot?, hname]

/-- The text that stands for a slot. -/
def slotKey (slot : Slot) : String := slot.1 ++ ":" ++ Base64.encode slot.2

theorem toList_slotKey (slot : Slot) :
    (slotKey slot).toList = slot.1.toList ++ ':' :: Base64.encodeChars slot.2 := by
  have hcolon : ":".toList = [':'] := rfl
  simp [slotKey, Base64.encode, String.toList_append, hcolon]

/-- A digest in writing has no colon, so the last colon of a key ends the username. -/
theorem slotKey_injective {a b : Slot} (h : slotKey a = slotKey b) : a = b := by
  have hlist := congrArg String.toList h
  rw [toList_slotKey, toList_slotKey, Text.append_cons_inj
    (Base64.colon_not_mem_encodeChars _) (Base64.colon_not_mem_encodeChars _)] at hlist
  obtain ⟨husername, hdigest⟩ := hlist
  apply Prod.ext
  · exact String.toList_inj.mp husername
  · exact Base64.encodeChars_injective hdigest

theorem digestText?_eq (c : Credential) : c.digestText? = c.digest.map Base64.encode := by
  cases hd : c.digest with
  | none => simp [digestText?, hd]
  | some digest =>
    have hne : digest ≠ [] := fun e => c.digest_ne_nil (e ▸ hd)
    simp [digestText?, hd, Base64.encodeNonempty?, hne]

/-- A credential has a key exactly if it has a slot. -/
theorem toOption_cacheKey (c : Credential) : c.cacheKey.toOption = c.slot?.map slotKey := by
  rw [cacheKey, slot?, digestText?_eq]
  split
  · rfl
  · cases c.digest <;> rfl

theorem cacheKey_eq_ok_iff {c : Credential} {key : String} :
    c.cacheKey = .ok key ↔ ∃ slot, c.slot? = some slot ∧ slotKey slot = key := by
  rw [← Option.map_eq_some_iff, ← toOption_cacheKey]
  cases c.cacheKey <;> simp [Except.toOption]

theorem cacheKey_of_slot? {c : Credential} {slot : Slot} (h : c.slot? = some slot) :
    c.cacheKey = .ok (slotKey slot) :=
  cacheKey_eq_ok_iff.mpr ⟨slot, h, rfl⟩

/-- The slot of a credential is the one that its key stands for. -/
theorem slot?_eq_some_iff {c : Credential} {key : String} (h : c.cacheKey = .ok key) {slot : Slot} :
    c.slot? = some slot ↔ slotKey slot = key := by
  obtain ⟨own, hown, rfl⟩ := cacheKey_eq_ok_iff.mp h
  constructor
  · intro hslot
    rw [hown] at hslot
    rw [Option.some.inj hslot]
  · intro hslot
    rw [hown, slotKey_injective hslot]

/-- An empty username is reported before an absent digest. -/
theorem cacheKey_eq_error_iff {c : Credential} {e : CredentialError} : c.cacheKey = .error e ↔
    c.username = "" ∧ e = .missingUsername ∨
      c.username ≠ "" ∧ c.digest = none ∧ e = .missingPasswordDigest := by
  rw [cacheKey, digestText?_eq]
  by_cases hname : c.username = ""
  · simp [hname, eq_comm]
  · cases c.digest <;> simp [hname, eq_comm]

theorem cacheKey_of_slot?_eq_none {c : Credential} (h : c.slot? = none) :
    ∃ e, c.cacheKey = .error e := by
  simp only [cacheKey_eq_error_iff]
  by_cases hname : c.username = ""
  · exact ⟨_, .inl ⟨hname, rfl⟩⟩
  · exact ⟨_, .inr ⟨hname, (slot?_eq_none_iff.mp h).resolve_left hname, rfl⟩⟩

/-- Duplicates have the username and the digest in common, or the username and no digest. -/
theorem isDuplicate_eq_true_iff {a b : Credential} :
    a.isDuplicate b = true ↔ a.username = b.username ∧ a.digest = b.digest := by
  rw [isDuplicate, Bool.and_eq_true, beq_iff_eq, matchesDigest, Password.digestsMatch_eq_true_iff,
    Password.present_eq_self a.digest_ne_nil, Password.present_eq_self b.digest_ne_nil]

theorem slot?_eq_some_iff_parts {c : Credential} {slot : Slot} : c.slot? = some slot ↔
    c.username ≠ "" ∧ c.username = slot.1 ∧ c.digest = some slot.2 := by
  obtain ⟨name, digest⟩ := slot
  by_cases hname : c.username = ""
  · simp [slot?, hname]
  · rw [slot?, if_neg hname, Option.map_eq_some_iff]
    constructor
    · rintro ⟨_, hdigest, hpair⟩
      obtain ⟨rfl, rfl⟩ := Prod.mk.inj hpair
      exact ⟨hname, rfl, hdigest⟩
    · rintro ⟨-, rfl, hdigest⟩
      exact ⟨digest, hdigest, rfl⟩

/-- Keys tell credentials apart exactly as duplicates are told apart, whatever the usernames look
like, and only a username or a digest that is missing leaves a credential without a key. -/
theorem cacheKey_separates :
    (∀ (a b : Credential) (k l : String), a.cacheKey = .ok k → b.cacheKey = .ok l →
      (k = l ↔ a.isDuplicate b = true)) ∧
    (∀ a b : Credential,
      a.isDuplicate b = true ↔ a.username = b.username ∧ a.digest = b.digest) ∧
    ∀ (c : Credential) (e : CredentialError), c.cacheKey = .error e ↔
      c.username = "" ∧ e = .missingUsername ∨
        c.username ≠ "" ∧ c.digest = none ∧ e = .missingPasswordDigest := by
  refine ⟨?_, fun _ _ => isDuplicate_eq_true_iff, fun _ _ => cacheKey_eq_error_iff⟩
  intro a b k l ha hb
  obtain ⟨slot, hslot, rfl⟩ := cacheKey_eq_ok_iff.mp ha
  obtain ⟨other, hother, rfl⟩ := cacheKey_eq_ok_iff.mp hb
  obtain ⟨-, hname, hdigest⟩ := slot?_eq_some_iff_parts.mp hslot
  obtain ⟨-, hname', hdigest'⟩ := slot?_eq_some_iff_parts.mp hother
  rw [isDuplicate_eq_true_iff, hname, hname', hdigest, hdigest', Option.some_inj, ← Prod.ext_iff]
  exact ⟨fun h => slotKey_injective h, congrArg slotKey⟩

/-- A username that ends like a key, and one digest under two salts. -/
theorem cacheKey_separates_lookalikes :
    let bob := ofDigest "bob" [1] (some [0, 1])
    let lookalike := ofDigest "bob:AAE=" [1] (some [0, 1])
    let resalted := ofDigest "bob" [2] (some [0, 1])
    bob.cacheKey = .ok "bob:AAE=" ∧ lookalike.cacheKey = .ok "bob:AAE=:AAE=" ∧
      ("bob:AAE=" = "bob:AAE=:AAE=" ↔ bob.isDuplicate lookalike = true) ∧
      resalted.cacheKey = .ok "bob:AAE=" ∧
      ("bob:AAE=" = "bob:AAE=" ↔ bob.isDuplicate resalted = true) := by
  intro bob lookalike resalted
  have hbob : bob.cacheKey = .ok "bob:AAE=" := rfl
  have hlookalike : lookalike.cacheKey = .ok "bob:AAE=:AAE=" := rfl
  have hresalted : resalted.cacheKey = .ok "bob:AAE=" := rfl
  exact ⟨hbob, hlookalike, cacheKey_separates.1 bob lookalike _ _ hbob hlookalike, hresalted,
    cacheKey_separates.1 bob resalted _ _ hbob hresalted⟩

theorem slot?_ofPassword (username password : String) (salt : Bytes) :
    (ofPassword username password salt).slot? =
      if username = "" then none
      else (Password.digest? salt password).map fun digest => (username, digest) := rfl

theorem slot?_ofPassword_eq_some_iff {username password name : String} {salt digest : Bytes} :
    (ofPassword username password salt).slot? = some (name, digest) ↔
      name ≠ "" ∧ username = name ∧ Password.digest? salt password = some digest := by
  rw [slot?_eq_some_iff_parts]
  constructor
  · rintro ⟨hname, rfl, hdigest⟩
    exact ⟨hname, rfl, hdigest⟩
  · rintro ⟨hname, rfl, hdigest⟩
    exact ⟨hname, rfl, hdigest⟩

end DirectoryAuth.Credential
