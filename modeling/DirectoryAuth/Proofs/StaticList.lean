import DirectoryAuth.Console.Dialogue
import DirectoryAuth.Proofs.Credential.Text
import DirectoryAuth.Proofs.Table
import DirectoryAuth.StaticList

/-! Lists of credentials: what is written can be read, the last credential of a user counts, and an
attempt is decided by that credential alone. -/
namespace DirectoryAuth

theorem usernameProblem?_eq_none_iff {username : String} : usernameProblem? username = none ↔
    username ≠ "" ∧ ∀ c ∈ username.toList, c ≠ ':' ∧ Text.isBlankChar c = false := by
  unfold usernameProblem?
  split
  · next hempty => simp [hempty]
  · next hname =>
    split
    · next hany =>
      obtain ⟨c, hc, hbad⟩ := List.any_eq_true.mp hany
      simp only [Bool.or_eq_true, beq_iff_eq] at hbad
      simp only [reduceCtorEq, false_iff, not_and]
      intro _ hall
      obtain ⟨hcolon, hblank⟩ := hall c hc
      rcases hbad with hbad | hbad
      · exact hcolon hbad
      · rw [hblank] at hbad
        contradiction
    · next hall =>
      simpa [hname] using hall

namespace Credential

/-- A credential that can stand on a list. -/
structure Listable (c : Credential) : Prop where
  username_ok : usernameProblem? c.username = none
  salt_ne : c.salt ≠ []
  digest_ne : c.digest ≠ none

/-- A credential made from a password can stand on a list if its username can. -/
theorem listable_ofPassword {username password : String} {salt : Bytes}
    (hname : usernameProblem? username = none) (hpassword : Text.isBlank password = false)
    (hsalt : salt ≠ []) : (ofPassword username password salt).Listable := by
  refine ⟨hname, hsalt, ?_⟩
  rw [ofPassword, Ne, Password.digest?_eq_none_iff, hpassword]
  decide

theorem Listable.complete {c : Credential} (h : c.Listable) : c.Complete := by
  obtain ⟨hne, hchars⟩ := usernameProblem?_eq_none_iff.mp h.username_ok
  have hcolon : ':' ∉ c.username.toList := fun hmem => (hchars ':' hmem).1 rfl
  exact ⟨hne, hcolon, h.salt_ne, h.digest_ne⟩

/-- The written form of a credential on a list is one word. -/
theorem Listable.isBlankChar_of_mem_text {c : Credential} (h : c.Listable) {x : Char}
    (hx : x ∈ c.text.toList) : Text.isBlankChar x = false := by
  obtain ⟨-, hchars⟩ := usernameProblem?_eq_none_iff.mp h.username_ok
  rw [toList_text] at hx
  simp only [List.mem_append, List.mem_cons] at hx
  rcases hx with hx | rfl | hx | rfl | hx
  · exact (hchars x hx).2
  · rfl
  · exact Base64.isBlankChar_of_mem_encodeChars hx
  · rfl
  · exact Base64.isBlankChar_of_mem_encodeChars hx

theorem text_ne_empty (c : Credential) : c.text ≠ "" := by
  intro h
  have hlist := congrArg String.toList h
  rw [toList_text] at hlist
  simp at hlist

theorem matchesPassword_eq_true_iff {c : Credential} {password : String} {salt : Bytes} :
    c.matchesPassword password salt = true ↔ Password.digest? salt password = c.digest := by
  rw [matchesPassword, matchesDigest, Password.digestsMatch_eq_true_iff,
    Password.present_eq_self c.digest_ne_nil,
    Password.present_eq_self (Password.digest?_ne_nil salt password), eq_comm]

end Credential

namespace StaticList

/-- The tokens of a written list are the written forms of its credentials. -/
theorem words_listText {credentials : List Credential} (h : ∀ c ∈ credentials, c.Listable) :
    Text.words (Credential.listText credentials) = credentials.map Credential.text := by
  apply Text.words_intercalate
  intro part hpart
  obtain ⟨c, hc, rfl⟩ := List.mem_map.mp hpart
  exact ⟨c.text_ne_empty, fun x hx => (h c hc).isBlankChar_of_mem_text hx⟩

/-- Reading gives back every list that was written. -/
theorem parse_listText_eq {credentials : List Credential} (h : ∀ c ∈ credentials, c.Listable) :
    parse (Credential.listText credentials) = .ok (ofCredentials credentials) := by
  have hread : (credentials.map Credential.text).mapM Credential.parse = .ok credentials :=
    mapM_map_eq_ok fun c hc => (h c hc).complete.parse_text
  rw [parse, words_listText h, hread]
  rfl

theorem get?_ofCredentials (credentials : List Credential) (username : String) :
    (ofCredentials credentials).credentials.get? username =
      (credentials.filter (·.username = username)).getLast? := by
  rw [ofCredentials, Table.get?_ofList, List.filter_map, List.getLast?_map, Option.map_map]
  simp [Function.comp_def]

theorem nodup_keys_ofCredentials (credentials : List Credential) :
    (ofCredentials credentials).credentials.keys.Nodup :=
  Table.nodup_keys_ofList _

theorem mem_keys_ofCredentials {credentials : List Credential} {username : String} :
    username ∈ (ofCredentials credentials).credentials.keys ↔
      ∃ c ∈ credentials, c.username = username := by
  simp [ofCredentials, Table.mem_keys_ofList]

/-- Where no two credentials have one username, each of them counts. -/
theorem get?_ofCredentials_of_mem {credentials : List Credential}
    (hdistinct : (credentials.map (·.username)).Nodup) {c : Credential} (hc : c ∈ credentials) :
    (ofCredentials credentials).credentials.get? c.username = some c := by
  rw [get?_ofCredentials]
  have hmem : c ∈ credentials.filter (·.username = c.username) := by simp [hc]
  obtain ⟨last, hlast⟩ := Option.ne_none_iff_exists'.mp
    (mt List.getLast?_eq_none_iff.mp (List.ne_nil_of_mem hmem))
  have hin := List.mem_of_getLast? hlast
  simp only [List.mem_filter, decide_eq_true_eq] at hin
  rw [hlast, List.inj_on_of_nodup_map hdistinct hin.1 hc hin.2]

/-- What an attempt that ran from `start` to `finish` can come to. -/
inductive Judged (list : StaticList) (username password : String) (drawn : Bytes)
    (start finish : Instant) : Attempt → Prop
  | unknown (absent : list.credentials.get? username = none) :
      Judged list username password drawn start finish
        ⟨some (.ofPassword username password drawn), start, .failure,
          "Not a valid username: " ++ username, some finish⟩
  | refused {c : Credential} (known : list.credentials.get? username = some c)
      (differs : Password.digest? c.salt password ≠ c.digest) :
      Judged list username password drawn start finish
        ⟨some (.ofPassword username password c.salt), start, .failure,
          "Password does not match for username: " ++ username, some finish⟩
  | accepted {c : Credential} (known : list.credentials.get? username = some c)
      (agrees : Password.digest? c.salt password = c.digest) :
      Judged list username password drawn start finish
        ⟨some (.ofPassword username password c.salt), start, .success,
          "Successfully authenticated username: " ++ username, some finish⟩

theorem authenticate_judged {σ : Type} (now : σ → Instant × σ) (list : StaticList)
    (username password : String) (drawn : Bytes) (s : σ) :
    Judged list username password drawn (now s).1 (now (now s).2).1
      (list.authenticate now username password drawn s).1 := by
  simp only [authenticate, check]
  cases hget : list.credentials.get? username with
  | none => exact .unknown hget
  | some c =>
    have hmatch : c.matchesDigest (Credential.ofPassword username password c.salt).digest = true ↔
      Password.digest? c.salt password = c.digest := Credential.matchesPassword_eq_true_iff
    simp only
    split
    · next h => exact .accepted hget (hmatch.mp h)
    · next h => exact .refused hget (mt hmatch.mpr h)

variable {σ : Type} {list : StaticList} {username password : String}

/-- Whom an attempt lets in, the credential on the list decides. -/
theorem status_authenticate_eq_success_iff {now : σ → Instant × σ} {drawn : Bytes} {s : σ} :
    (list.authenticate now username password drawn s).1.status = .success ↔
      ∃ c, list.credentials.get? username = some c ∧
        Password.digest? c.salt password = c.digest := by
  have hjudged := authenticate_judged now list username password drawn s
  generalize (list.authenticate now username password drawn s).1 = a at hjudged ⊢
  cases hjudged with
  | unknown absent => simp [absent]
  | refused known differs => simpa [known] using differs
  | accepted known agrees => simpa [known] using agrees

/-- The password that a credential on the list was made from is accepted. -/
theorem status_authenticate_of_ofPassword {salt : Bytes}
    (h : list.credentials.get? username = some (.ofPassword username password salt))
    (now : σ → Instant × σ) (drawn : Bytes) (s : σ) :
    (list.authenticate now username password drawn s).1.status = .success :=
  status_authenticate_eq_success_iff.mpr ⟨_, h, rfl⟩

theorem status_authenticate_of_get?_eq_none (h : list.credentials.get? username = none)
    (now : σ → Instant × σ) (password : String) (drawn : Bytes) (s : σ) :
    (list.authenticate now username password drawn s).1.status = .failure := by
  simp only [authenticate, check, h]
  rfl

end StaticList

end DirectoryAuth
