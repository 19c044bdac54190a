import DirectoryAuth.Proofs.Ldap.Outcome

/-! What the actions of a client come to on a network, by the answers that the network gives. -/
namespace DirectoryAuth.Ldap

variable {κ σ α β : Type}

namespace Session

theorem bind_apply (m : Session κ σ α) (k : α → Session κ σ β) (s : Client κ × σ) :
    (m >>= k) s = k (m s).1 (m s).2 := rfl

theorem pure_apply (a : α) (s : Client κ × σ) : (pure a : Session κ σ α) s = (a, s) := rfl

theorem outside_apply (f : σ → α × σ) (s : Client κ × σ) :
    outside f s = ((f s.2).1, s.1, (f s.2).2) := rfl

variable (net : Network κ σ) (settings : LdapSettings) (s : Client κ × σ)

theorem searchHandle_of_handle {c : κ} (h : s.1.handle = some c) :
    searchHandle net settings s = (.ok c, s) := by
  rw [searchHandle, bind_apply]
  simp only [client, h]
  rfl

/-- A connection that replaces none is bound if it is opened and the bind on it is accepted. -/
theorem connect_apply (h : s.1.handle = none) (dn password : String) :
    connect net dn password s =
      match net.connect s.2 with
      | (.error reason, after) => (.error (.connection reason), {}, after)
      | (.ok c, opened) =>
        match net.bind c dn password opened with
        | (.error reason, after) => (.error (.connection ("Bind failed: " ++ reason)), {}, after)
        | (.ok result, bound) =>
          if result.code = 0 then (.ok (), ⟨some c, .bound⟩, bound)
          else (.error (.bind result.code result.text), {}, net.unbind c bound) := by
  obtain ⟨⟨_, state⟩, world⟩ := s
  subst h
  rw [connect, bind_apply, outside_apply]
  rcases net.connect world with ⟨reason | c, opened⟩
  · rfl
  · simp only [bind_apply, outside_apply]
    rcases net.bind c dn password opened with ⟨reason | result, bound⟩
    · rfl
    · by_cases hcode : result.code = 0
      · simp only [hcode, ↓reduceIte]
        rfl
      · simp only [hcode, ↓reduceIte]
        rfl

/-- Where the client holds no connection, one is made as the service account, if there is one. -/
theorem searchHandle_apply (h : s.1.handle = none) : searchHandle net settings s =
    if settings.bindDn = "" then (.error .notConnected, s)
    else
      match connect net settings.bindDn settings.bindPassword s with
      | (.error e, after) => (.error e, after)
      | (.ok (), after) =>
        match after.1.handle with
        | some c => (.ok c, after)
        | none => (.error .notConnected, after) := by
  rw [searchHandle, bind_apply]
  simp only [client, h]
  split
  · rfl
  · rw [bind_apply, connectServiceAccount]
    rcases connect net settings.bindDn settings.bindPassword s with ⟨e | u, after⟩
    · rfl
    · simp only [bind_apply, client]
      cases after.1.handle <;> rfl

/-- A search is made on the connection that the look for one comes to. -/
theorem searchFirst_apply (name value : String) (wanted : List String) :
    searchFirst net settings name value wanted s =
      match searchHandle net settings s with
      | (.error e, after) => (.error e, after)
      | (.ok c, held) =>
        match net.ask c ⟨settings.userBaseDn, ⟨name, value⟩, wanted⟩ held.2 with
        | (.error failure, after) => (.error (.search failure.message), ⟨none, .error⟩, after)
        | (.ok answer, after) =>
          (if answer.result.code = 0 then .ok answer.entries.head?
            else .error (.search answer.result.message), held.1, after) := by
  rw [searchFirst, bind_apply]
  rcases searchHandle net settings s with ⟨e | c, held⟩
  · rfl
  · simp only [bind_apply, outside_apply]
    rcases net.ask c _ held.2 with ⟨failure | answer, after⟩
    · rfl
    · simp only
      split <;> rfl

theorem tryBind_apply (dn password : String) : tryBind net dn password s =
    match net.connect s.2 with
    | (.error reason, after) => (.error (.connection reason), s.1, after)
    | (.ok c, opened) =>
      match net.bind c dn password opened with
      | (.error reason, after) =>
        (.error (.connection ("User bind failed: " ++ reason)), s.1, after)
      | (.ok result, bound) => (.ok (result.code == 0), s.1, net.unbind c bound) := by
  rw [tryBind, bind_apply, outside_apply]
  rcases net.connect s.2 with ⟨reason | c, opened⟩
  · rfl
  · simp only [bind_apply, outside_apply]
    rcases net.bind c dn password opened with ⟨reason | result, bound⟩ <;> rfl

theorem tryBind_client (dn password : String) :
    (tryBind net dn password s).2.1 = s.1 := by
  rw [tryBind_apply]
  rcases net.connect s.2 with ⟨reason | c, opened⟩
  · rfl
  · simp only
    rcases net.bind c dn password opened with ⟨reason | result, bound⟩ <;> rfl

theorem verify_of_blank (username : String) {password : String}
    (h : Text.isBlank password = true) :
    verify net settings username password s = (.ok false, s) := by
  rw [verify, h]
  rfl

/-- A password that is not blank is tried for the user that is found. -/
theorem verify_eq (username : String) {password : String} (h : Text.isBlank password = false) :
    verify net settings username password s =
      match findUser net settings settings.attributes.accountName username s with
      | (.error e, s') => (.error e, s')
      | (.ok none, s') => (.ok false, s')
      | (.ok (some user), s') =>
        tryBind net (bindDnOf settings.attributes user.account) password s' := by
  rw [verify, h]
  simp only [Bool.false_eq_true, ↓reduceIte, bind_apply]
  rcases findUser net settings settings.attributes.accountName username s with
    ⟨e | _ | user, s'⟩
  · rfl
  · rfl
  · rfl

/-- A check of a password that is not blank: the search for the user and, where it gives an entry,
the bind as that user. -/
theorem verify_apply (username : String) {password : String}
    (h : Text.isBlank password = false) :
    verify net settings username password s =
      match searchFirst net settings settings.attributes.accountName username
        (userAttributes settings.attributes) s with
      | (.error e, after) => (.error e, after)
      | (.ok none, after) => (.ok false, after)
      | (.ok (some entry), after) =>
        tryBind net (entryBindDn settings.attributes entry) password after := by
  have hfind : findUser net settings settings.attributes.accountName username s =
      let found := searchFirst net settings settings.attributes.accountName username
        (userAttributes settings.attributes) s
      (found.1.map fun entry => entry.map fun e =>
        settings.attributes.userOfEntry e.dn e.attributes, found.2) := rfl
  rw [verify_eq net settings s username h, hfind]
  rcases searchFirst net settings settings.attributes.accountName username
    (userAttributes settings.attributes) s with ⟨e | _ | entry, after⟩
  · rfl
  · rfl
  · rfl

theorem verify_of_searchHandle {username password : String} {e : DirectoryError}
    {after : Client κ × σ} (hblank : Text.isBlank password = false)
    (h : searchHandle net settings s = (.error e, after)) :
    verify net settings username password s = (.error e, after) := by
  rw [verify_apply net settings s username hblank, searchFirst_apply, h]

end Session

end DirectoryAuth.Ldap
