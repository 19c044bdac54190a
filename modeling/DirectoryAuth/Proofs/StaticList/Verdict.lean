import DirectoryAuth.Proofs.StaticList

/-! What an attempt against a list of credentials comes to. Of several credentials of one user the
last one counts, and an attempt succeeds if the password has its digest. A credential that was read
from a text has a digest, which no blank password has; a list that was put together otherwise can
have a credential without one. -/
namespace DirectoryAuth

/-- Tokens that can all be read are the written forms of what is read. -/
theorem Credential.mapM_parse_eq_ok_iff {tokens : List String} {credentials : List Credential} :
    tokens.mapM parse = .ok credentials ↔
      (∀ c ∈ credentials, c.Complete) ∧ tokens = credentials.map text := by
  constructor
  · intro h
    rw [mapM_eq_ok_iff] at h
    have hforms : List.Forall₂ (· = ·) tokens (credentials.map text) :=
      List.forall₂_map_right_iff.mpr (h.imp fun _ _ hparse => (complete_of_parse hparse).2.symm)
    rw [List.forall₂_eq_eq_eq] at hforms
    subst hforms
    rw [List.forall₂_map_left_iff, List.forall₂_same] at h
    exact ⟨fun c hc => (complete_of_parse (h c hc)).1, rfl⟩
  · rintro ⟨hcomplete, rfl⟩
    exact mapM_map_eq_ok fun c hc => (hcomplete c hc).parse_text

namespace StaticList

/-- The credential of a user after which the list has no other of that user. -/
theorem get?_ofCredentials_eq_some_iff {credentials : List Credential} {username : String}
    {c : Credential} : (ofCredentials credentials).credentials.get? username = some c ↔
      ∃ before after, credentials = before ++ c :: after ∧ c.username = username ∧
        ∀ d ∈ after, d.username ≠ username := by
  rw [get?_ofCredentials, List.getLast?_eq_head?_reverse, ← List.filter_reverse, List.head?_filter,
    List.find?_eq_some_iff_append]
  simp only [decide_eq_true_eq, Bool.not_eq_true', decide_eq_false_iff_not]
  constructor
  · rintro ⟨hname, after, before, hsplit, hafter⟩
    refine ⟨before.reverse, after.reverse, ?_, hname, fun d hd => hafter d (List.mem_reverse.mp hd)⟩
    rw [← List.reverse_inj, hsplit]
    simp
  · rintro ⟨before, after, rfl, hname, hafter⟩
    exact ⟨hname, after.reverse, before.reverse, by simp,
      fun d hd => hafter d (List.mem_reverse.mp hd)⟩

theorem get?_ofCredentials_eq_none_iff {credentials : List Credential} {username : String} :
    (ofCredentials credentials).credentials.get? username = none ↔
      ∀ c ∈ credentials, c.username ≠ username := by
  rw [get?_ofCredentials, List.getLast?_eq_none_iff, List.filter_eq_nil_iff]
  simp

theorem parse_eq_ok_iff {text : String} {list : StaticList} : parse text = .ok list ↔
    ∃ credentials : List Credential, (∀ c ∈ credentials, c.Complete) ∧
      Text.words text = credentials.map Credential.text ∧ ofCredentials credentials = list := by
  simp only [← and_assoc, ← Credential.mapM_parse_eq_ok_iff]
  rw [parse]
  cases (Text.words text).mapM Credential.parse <;> simp [Functor.map, Except.map]

theorem parse_eq_error_iff {text : String} {e : CredentialError} : parse text = .error e ↔
    ∃ before token after, Text.words text = before ++ token :: after ∧
      (∀ t ∈ before, ∃ c, Credential.parse t = .ok c) ∧ Credential.parse token = .error e := by
  rw [← mapM_eq_error_iff, parse]
  cases (Text.words text).mapM Credential.parse <;> simp [Functor.map, Except.map]

/-- A list can be read if each of its tokens can. -/
theorem exists_parse_eq_ok_iff {text : String} : (∃ list, parse text = .ok list) ↔
    ∀ token ∈ Text.words text, ∃ c, Credential.parse token = .ok c := by
  constructor
  · rintro ⟨list, hparse⟩ token htoken
    obtain ⟨credentials, hcomplete, hwords, -⟩ := parse_eq_ok_iff.mp hparse
    rw [hwords, List.mem_map] at htoken
    obtain ⟨c, hc, rfl⟩ := htoken
    exact ⟨c, (hcomplete c hc).parse_text⟩
  · intro hread
    cases hparse : parse text with
    | ok list => exact ⟨list, rfl⟩
    | error e =>
      obtain ⟨before, token, after, hsplit, -, hrefused⟩ := parse_eq_error_iff.mp hparse
      obtain ⟨c, hc⟩ := hread token (by simp [hsplit])
      rw [hc] at hrefused
      contradiction

/-- A list that is read from a text with a word in it has a user. -/
theorem size_pos_of_parse {text : String} (htext : Text.isBlank text = false) {list : StaticList}
    (hparse : parse text = .ok list) : 0 < list.size := by
  obtain ⟨credentials, -, hwords, rfl⟩ := parse_eq_ok_iff.mp hparse
  have hne : credentials ≠ [] := by
    rintro rfl
    rw [List.map_nil, Text.words_eq_nil_iff, htext] at hwords
    contradiction
  obtain ⟨c, hc⟩ := List.exists_mem_of_ne_nil credentials hne
  have huser := mem_keys_ofCredentials.mpr ⟨c, hc, rfl⟩
  rw [size, Table.size_eq_length_keys]
  exact List.length_pos_of_mem huser

/-- The last token with a username is that of the credential `c`. -/
def LastToken (tokens : List String) (username : String) (c : Credential) : Prop :=
  ∃ before token after, tokens = before ++ token :: after ∧ Credential.parse token = .ok c ∧
    c.username = username ∧ ∀ t ∈ after, ∀ d, Credential.parse t = .ok d → d.username ≠ username

/-- Some token has the username. -/
def Named (tokens : List String) (username : String) : Prop :=
  ∃ token ∈ tokens, ∃ c, Credential.parse token = .ok c ∧ c.username = username

section
variable {credentials : List Credential} (h : ∀ c ∈ credentials, c.Complete) {username : String}
include h

theorem lastToken_map_text_iff {c : Credential} :
    LastToken (credentials.map Credential.text) username c ↔
      (ofCredentials credentials).credentials.get? username = some c := by
  rw [get?_ofCredentials_eq_some_iff]
  constructor
  · rintro ⟨_, token, _, hsplit, hparse, hname, hafter⟩
    obtain ⟨before, rest, rfl, rfl, hrest⟩ := List.map_eq_append_iff.mp hsplit
    obtain ⟨d, after, rfl, rfl, rfl⟩ := List.map_eq_cons_iff.mp hrest
    rw [(h d (by simp)).parse_text] at hparse
    obtain rfl := Except.ok.inj hparse
    refine ⟨before, after, rfl, hname, fun e he => ?_⟩
    exact hafter e.text (List.mem_map_of_mem he) e (h e (by simp [he])).parse_text
  · rintro ⟨before, after, rfl, hname, hafter⟩
    refine ⟨before.map Credential.text, c.text, after.map Credential.text, by simp,
      (h c (by simp)).parse_text, hname, fun t ht d hd => ?_⟩
    obtain ⟨e, he, rfl⟩ := List.mem_map.mp ht
    rw [(h e (by simp [he])).parse_text] at hd
    exact Except.ok.inj hd ▸ hafter e he

theorem named_map_text_iff : Named (credentials.map Credential.text) username ↔
    (ofCredentials credentials).credentials.get? username ≠ none := by
  rw [Ne, get?_ofCredentials_eq_none_iff]
  push Not
  constructor
  · rintro ⟨_, htoken, c, hparse, hname⟩
    obtain ⟨d, hd, rfl⟩ := List.mem_map.mp htoken
    rw [(h d hd).parse_text] at hparse
    exact ⟨d, hd, Except.ok.inj hparse ▸ hname⟩
  · rintro ⟨c, hc, hname⟩
    exact ⟨c.text, List.mem_map_of_mem hc, c, (h c hc).parse_text, hname⟩

end

/-- What a finished attempt says of a user and a password, by the tokens of a list. -/
structure Verdict (tokens : List String) (username password : String) (a : Attempt) : Prop where
  success_iff : a.status = .success ↔ Text.isBlank password = false ∧
    ∃ c, LastToken tokens username c ∧ Password.digest? c.salt password = c.digest
  failure_of_ne : a.status ≠ .success → a.status = .failure
  message_of_success :
    a.status = .success → a.message = "Successfully authenticated username: " ++ username
  message_of_named : Named tokens username → a.status ≠ .success →
    a.message = "Password does not match for username: " ++ username
  message_of_not_named :
    ¬Named tokens username → a.message = "Not a valid username: " ++ username
  finished : a.finish.isSome = true
  username_eq : a.username? = some username

theorem verdict_of_judged {credentials : List Credential} (h : ∀ c ∈ credentials, c.Complete)
    {username password : String} {drawn : Bytes} {start finish : Instant} {a : Attempt}
    (ha : Judged (ofCredentials credentials) username password drawn start finish a) :
    Verdict (credentials.map Credential.text) username password a := by
  cases ha with
  | unknown absent =>
    have hnamed : ¬Named (credentials.map Credential.text) username :=
      fun hnamed => (named_map_text_iff h).mp hnamed absent
    exact
      { success_iff := by simp [lastToken_map_text_iff h, absent]
        failure_of_ne := fun _ => rfl
        message_of_success := nofun
        message_of_named := fun hn => absurd hn hnamed
        message_of_not_named := fun _ => rfl
        finished := rfl
        username_eq := rfl }
  | refused known differs =>
    have hnamed : Named (credentials.map Credential.text) username :=
      (named_map_text_iff h).mpr (by simp [known])
    exact
      { success_iff := by simp [lastToken_map_text_iff h, known, differs]
        failure_of_ne := fun _ => rfl
        message_of_success := nofun
        message_of_named := fun _ _ => rfl
        message_of_not_named := fun hn => absurd hnamed hn
        finished := rfl
        username_eq := rfl }
  | @accepted c known agrees =>
    have hnamed : Named (credentials.map Credential.text) username :=
      (named_map_text_iff h).mpr (by simp [known])
    -- a credential on the list has a digest, and a blank password has none
    have hpresent : Text.isBlank password = false := by
      obtain ⟨before, after, rfl, -, -⟩ := get?_ofCredentials_eq_some_iff.mp known
      have hdigest := (h c (by simp)).digest_ne
      rw [← agrees, Ne, Password.digest?_eq_none_iff, Bool.not_eq_true] at hdigest
      exact hdigest
    exact
      { success_iff := by simp [lastToken_map_text_iff h, known, agrees, hpresent]
        failure_of_ne := nofun
        message_of_success := fun _ => rfl
        message_of_named := fun _ hs => absurd rfl hs
        message_of_not_named := fun hn => absurd hnamed hn
        finished := rfl
        username_eq := rfl }

/-- A written list is refused for the first token that is no credential. One that is read lets in
exactly those whose password has the digest of the last token with their name, fails everybody else
with a message that says whether the user is on the list, and logs each finished attempt once. -/
theorem parse_decides_attempts (text : String) :
    (∀ e, parse text = .error e ↔
      ∃ before token after, Text.words text = before ++ token :: after ∧
        (∀ t ∈ before, ∃ c, Credential.parse t = .ok c) ∧ Credential.parse token = .error e) ∧
    ((∃ e, parse text = .error e) ↔
      ∃ token ∈ Text.words text, ∀ c, Credential.parse token ≠ .ok c) ∧
    ∀ list, parse text = .ok list → ∀ {σ : Type} (now : σ → Instant × σ)
      (username password : String) (drawn : Bytes) (log : List LogEntry) (s : σ),
      let answer := list.authenticateLogged now username password drawn log s
      Verdict (Text.words text) username password answer.1 ∧
        answer.2.1 = log ++ [answer.1.logEntry] := by
  refine ⟨fun _ => parse_eq_error_iff, ?_, ?_⟩
  · constructor
    · rintro ⟨e, he⟩
      obtain ⟨before, token, after, hsplit, -, htoken⟩ := parse_eq_error_iff.mp he
      exact ⟨token, by simp [hsplit], by simp [htoken]⟩
    · rintro ⟨token, htoken, hrefused⟩
      cases hparse : parse text with
      | error e => exact ⟨e, rfl⟩
      | ok list =>
        obtain ⟨credentials, hcomplete, hwords, -⟩ := parse_eq_ok_iff.mp hparse
        rw [hwords, List.mem_map] at htoken
        obtain ⟨c, hc, rfl⟩ := htoken
        exact absurd (hcomplete c hc).parse_text (hrefused c)
  · intro list hparse σ now username password drawn log s
    obtain ⟨credentials, hcomplete, hwords, rfl⟩ := parse_eq_ok_iff.mp hparse
    refine ⟨?_, rfl⟩
    rw [hwords]
    exact verdict_of_judged hcomplete (authenticate_judged now _ username password drawn s)

/-- Two tokens of one user: the password of the later one is let in, a blank one is not. -/
theorem parse_decides_attempts_last_token :
    let credentials : List Credential :=
      [.ofPassword "bob" "old" [1], .ofPassword "bob" "new" [2]]
    ∃ list, parse (Credential.listText credentials) = .ok list ∧
      (list.authenticateLogged ManualClock.read "bob" "new" [] [] {}).1.status = .success ∧
      (list.authenticateLogged ManualClock.read "bob" "\t" [] [] {}).1.status = .failure ∧
      (list.authenticateLogged ManualClock.read "eve" "new" [] [] {}).1.message =
        "Not a valid username: eve" := by
  intro credentials
  have hlistable : ∀ c ∈ credentials, c.Listable := by
    intro c hc
    simp only [credentials, List.mem_cons, List.not_mem_nil, or_false] at hc
    rcases hc with rfl | rfl
    · exact Credential.listable_ofPassword (by decide) (by decide) (by decide)
    · exact Credential.listable_ofPassword (by decide) (by decide) (by decide)
  have hcomplete : ∀ c ∈ credentials, c.Complete := fun c hc => (hlistable c hc).complete
  have hparse := parse_listText_eq hlistable
  have hdecides := (parse_decides_attempts (Credential.listText credentials)).2.2 _ hparse
    ManualClock.read
  rw [words_listText hlistable] at hdecides
  have hlast : LastToken (credentials.map Credential.text) "bob" (.ofPassword "bob" "new" [2]) :=
    (lastToken_map_text_iff hcomplete).mpr rfl
  have hnobody : ¬Named (credentials.map Credential.text) "eve" :=
    mt (named_map_text_iff hcomplete).mp (not_not.mpr rfl)
  refine ⟨_, hparse, ?_, ?_, ?_⟩
  · exact (hdecides "bob" "new" [] [] {}).1.success_iff.mpr ⟨by decide, _, hlast, rfl⟩
  · have hblank := (hdecides "bob" "\t" [] [] {}).1
    exact hblank.failure_of_ne fun hs => absurd (hblank.success_iff.mp hs).1 (by decide)
  · exact (hdecides "eve" "new" [] [] {}).1.message_of_not_named hnobody

/-- A blank password is let in exactly where the credential that counts has no digest. -/
theorem success_of_blank_iff {password : String} (hblank : Text.isBlank password = true)
    (credentials : List Credential) (username : String) {σ : Type} (now : σ → Instant × σ)
    (drawn : Bytes) (s : σ) :
    ((ofCredentials credentials).authenticate now username password drawn s).1.status = .success ↔
      ∃ c, (credentials.filter (·.username = username)).getLast? = some c ∧ c.digest = none := by
  have hdigest (salt : Bytes) : Password.digest? salt password = none :=
    Password.digest?_eq_none_iff.mpr hblank
  rw [status_authenticate_eq_success_iff, get?_ofCredentials]
  simp only [hdigest, eq_comm]

/-- Of two users on a list, only the one without a digest is let in with a blank password. -/
theorem success_of_blank_iff_without_digest :
    let list := ofCredentials [.ofDigest "bob" [1] (some [2]), .ofDigest "eve" [1] none]
    Text.isBlank "\t" = true ∧
      (list.authenticate ManualClock.read "bob" "\t" [] {}).1.status ≠ .success ∧
      (list.authenticate ManualClock.read "eve" "\t" [] {}).1.status = .success := by
  have hblank : Text.isBlank "\t" = true := by decide
  refine ⟨hblank, ?_, ?_⟩
  · rw [Ne, success_of_blank_iff hblank]
    simp [Credential.ofDigest, Password.present]
  · exact (success_of_blank_iff hblank _ "eve" ManualClock.read [] {}).mpr ⟨_, rfl, rfl⟩

/-- A list can let in a blank password: two absent digests match. -/
theorem blank_password_accepted :
    ¬∀ (credentials : List Credential) (username password : String),
      Text.isBlank password = true →
      ((ofCredentials credentials).authenticate ManualClock.read username password [] {}).1.status ≠
        .success := by
  intro hnever
  exact hnever [.ofDigest "bob" [0] none] "bob" "" rfl rfl

end StaticList

end DirectoryAuth
