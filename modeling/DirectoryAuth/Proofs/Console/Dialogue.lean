import DirectoryAuth.Proofs.StaticList

/-! The dialogue that makes a list of credentials. Each answer does what was asked for or is
refused, so the usernames entered can all stand on one list. -/
namespace DirectoryAuth.Dialogue

/-- Whether an answer does what the dialogue asks for. -/
def Accepts (d : Dialogue) (line : String) : Prop :=
  match d.stage with
  | .username => usernameProblem? line = none ∧ line ∉ d.entered.map (·.username)
  | .password _ => Text.isBlank line = false
  | .another => Text.trim line ∈ ["y", "Y", "n", "N"]

/-- The user that an answer completes: the one whose password was asked for, with that password. -/
def completed? (d : Dialogue) (line : String) : Option (String × String) :=
  match d.stage with
  | .password username => if Text.isBlank line then none else some (username, line)
  | _ => none

/-- All that an answer can lead to. -/
inductive Answered (d : Dialogue) (salt : Bytes) (line : String) :
    Option (String × String) → Next → Prop
  | refused (refuses : ¬d.Accepts line) : Answered d salt line none (.again d)
  | username (stage : d.stage = .username) (ok : usernameProblem? line = none)
      (new : line ∉ d.entered.map (·.username)) :
      Answered d salt line none (.again { d with stage := .password line })
  | password {username : String} (stage : d.stage = .password username)
      (present : Text.isBlank line = false) : Answered d salt line (some (username, line))
        (.again ⟨.another, d.entered ++ [.ofPassword username line salt]⟩)
  | more (stage : d.stage = .another) (yes : Text.trim line ∈ ["y", "Y"]) :
      Answered d salt line none (.again { d with stage := .username })
  | enough (stage : d.stage = .another) (no : Text.trim line ∈ ["n", "N"]) :
      Answered d salt line none (.finished d.entered)

theorem answered (d : Dialogue) (salt : Bytes) (line : String) :
    Answered d salt line (d.completed? line) (d.answer salt line).2 := by
  obtain ⟨stage, entered⟩ := d
  cases stage with
  | username =>
    simp only [answer, completed?]
    cases hproblem : usernameProblem? line with
    | some problem => exact .refused (by simp [Accepts, hproblem])
    | none =>
      by_cases hold : line ∈ entered.map (·.username)
      · have hany : entered.any (·.username == line) = true := by simpa using hold
        simp only [hany, if_true]
        exact .refused (by simp [Accepts, hold])
      · have hany : entered.any (·.username == line) = false := by simpa using hold
        simp only [hany]
        exact .username rfl hproblem hold
  | password username =>
    simp only [answer, completed?]
    cases hblank : Text.isBlank line with
    | true => exact .refused (by simp [Accepts, hblank])
    | false => exact .password rfl hblank
  | another =>
    simp only [answer, completed?]
    split
    · next hyes => exact .more rfl (by simpa using hyes)
    · next hyes =>
      split
      · next hno => exact .enough rfl (by simpa using hno)
      · next hno => exact .refused (by simp_all [Accepts])

/-- What has been entered can stand on a list, and so can the user whose password is asked for. -/
structure Orderly (d : Dialogue) : Prop where
  listable : ∀ c ∈ d.entered, c.Listable
  distinct : (d.entered.map (·.username)).Nodup
  named : ∀ username, d.stage = .password username →
    usernameProblem? username = none ∧ username ∉ d.entered.map (·.username)

theorem orderly_start : Orderly {} := by
  constructor
  · intro c hc
    contradiction
  · exact List.nodup_nil
  · intro username hstage
    contradiction

theorem Orderly.answered {d d' : Dialogue} {salt : Bytes} {line : String}
    {user : Option (String × String)} (h : d.Orderly) (hsalt : salt ≠ [])
    (hanswer : Answered d salt line user (.again d')) : d'.Orderly := by
  cases hanswer with
  | refused refuses => exact h
  | username stage ok new =>
    refine ⟨h.listable, h.distinct, ?_⟩
    intro username hstage
    obtain rfl := Stage.password.inj hstage
    exact ⟨ok, new⟩
  | @password username stage present =>
    obtain ⟨hname, hnew⟩ := h.named username stage
    refine ⟨?_, ?_, fun username hstage => by cases hstage⟩
    · intro c hc
      rcases List.mem_append.mp hc with hc | hc
      · exact h.listable c hc
      · obtain rfl := List.mem_singleton.mp hc
        exact Credential.listable_ofPassword hname present hsalt
    · rw [List.map_append, List.map_singleton, ← List.concat_eq_append]
      exact h.distinct.concat hnew
  | more stage yes => exact ⟨h.listable, h.distinct, fun username hstage => by cases hstage⟩

/-- What has been entered after an answer, if the dialogue goes on. -/
theorem Answered.entered_eq {d d' : Dialogue} {salt : Bytes} {line : String}
    {user : Option (String × String)} (h : Answered d salt line user (.again d')) :
    d'.entered = d.entered ++ user.toList.map fun u => .ofPassword u.1 u.2 salt := by
  cases h <;> simp

theorem Answered.finished_eq {d : Dialogue} {salt : Bytes} {line : String}
    {user : Option (String × String)} {credentials : List Credential}
    (h : Answered d salt line user (.finished credentials)) : credentials = d.entered := by
  cases h
  rfl

variable (salts : Nat → Bytes)

/-- The users that are taken in over the lines of an input, each with the password entered. -/
def users (d : Dialogue) : List Bytes → List (String × String)
  | [] => []
  | line :: rest =>
    match Console.lineText line with
    | .error _ => []
    | .ok text =>
      match (d.answer (salts d.entered.length) text).2 with
      | .again d' => (d.completed? text).toList ++ users d' rest
      | .finished _ => []

variable {salts} {d : Dialogue} {line : Bytes} {rest lines : List Bytes}
  {credentials : List Credential}

/-- A dialogue that comes to its end is ended by its first answer or goes on after it. -/
theorem hold_cases (h : (hold salts d (line :: rest)).result = .ok credentials) :
    (credentials = d.entered ∧ users salts d (line :: rest) = []) ∨
    ∃ text d', Answered d (salts d.entered.length) text (d.completed? text) (.again d') ∧
      (hold salts d' rest).result = .ok credentials ∧
      users salts d (line :: rest) = (d.completed? text).toList ++ users salts d' rest := by
  rw [hold] at h
  rw [users]
  cases htext : Console.lineText line with
  | error e => simp [htext] at h
  | ok text =>
    have hanswered := answered d (salts d.entered.length) text
    simp only [htext] at h ⊢
    split at h
    · next printed d' hnext =>
      rw [hnext] at hanswered ⊢
      exact .inr ⟨text, d', hanswered, h, rfl⟩
    · next printed ended hnext =>
      rw [hnext] at hanswered ⊢
      rw [← Except.ok.inj h]
      exact .inl ⟨hanswered.finished_eq, rfl⟩

/-- One credential for each user, in the order of the dialogue and each with a salt of its own. -/
theorem credentials_of_hold (h : (hold salts d lines).result = .ok credentials) :
    credentials = d.entered ++ (users salts d lines).mapIdx fun n user =>
      .ofPassword user.1 user.2 (salts (d.entered.length + n)) := by
  induction lines generalizing d with
  | nil => simp [Dialogue.hold] at h
  | cons line rest ih =>
    rcases hold_cases h with ⟨hend, husers⟩ | ⟨text, d', hanswered, hrest, husers⟩
    · simp [hend, husers]
    · have hentered := hanswered.entered_eq
      rw [ih hrest, husers]
      cases huser : d.completed? text with
      | none => simp [hentered, huser]
      | some user => simp [hentered, huser, List.mapIdx_cons, Nat.add_assoc, Nat.add_comm 1]

/-- The credentials of a whole dialogue can stand on one list. -/
theorem Orderly.hold (hd : d.Orderly) (hsalts : ∀ n, salts n ≠ [])
    (h : (hold salts d lines).result = .ok credentials) :
    (∀ c ∈ credentials, c.Listable) ∧ (credentials.map (·.username)).Nodup := by
  induction lines generalizing d with
  | nil => simp [Dialogue.hold] at h
  | cons line rest ih =>
    rcases hold_cases h with ⟨rfl, -⟩ | ⟨text, d', hanswered, hrest, -⟩
    · exact ⟨hd.listable, hd.distinct⟩
    · exact ih (hd.answered (hsalts _) hanswered) hrest

/-- Each user of a dialogue has a credential made from the password entered. -/
theorem ofPassword_mem_of_hold (h : (hold salts {} lines).result = .ok credentials)
    {user : String × String} (huser : user ∈ users salts {} lines) :
    ∃ n, .ofPassword user.1 user.2 (salts n) ∈ credentials := by
  obtain ⟨n, hn, rfl⟩ := List.getElem_of_mem huser
  refine ⟨n, ?_⟩
  rw [credentials_of_hold h]
  simp only [List.nil_append, List.mem_mapIdx, List.length_nil, Nat.zero_add]
  exact ⟨n, hn, rfl⟩

theorem username_mem_of_hold (h : (hold salts {} lines).result = .ok credentials)
    {c : Credential} (hc : c ∈ credentials) : c.username ∈ (users salts {} lines).map (·.1) := by
  rw [credentials_of_hold h] at hc
  simp only [List.nil_append, List.mem_mapIdx] at hc
  obtain ⟨n, hn, rfl⟩ := hc
  exact List.mem_map_of_mem (List.getElem_mem hn)

/-- What is printed can be used. A written list is read as the last credential of each user on it,
and a list that a dialogue has made lets in the users entered, each with the password entered, and
nobody else. -/
theorem listText_lets_in_users :
    (∀ credentials : List Credential, (∀ c ∈ credentials, c.Listable) →
      ∃ list, StaticList.parse (Credential.listText credentials) = .ok list ∧
        (∀ username, list.credentials.get? username =
          (credentials.filter (·.username = username)).getLast?) ∧
        list.credentials.keys.Nodup ∧
        ∀ username, username ∈ list.credentials.keys ↔ ∃ c ∈ credentials, c.username = username) ∧
    ∀ (sources : Nat → Nat → UInt8) (lines : List Bytes) (credentials : List Credential),
      let salts n := Password.defaultSalt (sources n)
      (hold salts {} lines).result = .ok credentials →
      ∃ list, StaticList.parse (Credential.listText credentials) = .ok list ∧
        ∀ {σ : Type} (now : σ → Instant × σ) (drawn : Bytes) (s : σ),
          (∀ user ∈ users salts {} lines,
            (list.authenticate now user.1 user.2 drawn s).1.status = .success) ∧
          ∀ username password, username ∉ (users salts {} lines).map (·.1) →
            (list.authenticate now username password drawn s).1.status = .failure := by
  constructor
  · intro credentials hlistable
    exact ⟨_, StaticList.parse_listText_eq hlistable, StaticList.get?_ofCredentials credentials,
      StaticList.nodup_keys_ofCredentials credentials,
      fun username => StaticList.mem_keys_ofCredentials⟩
  · intro sources lines credentials salts hheld
    have hsalts : ∀ n, salts n ≠ [] := fun n => by simp [salts, Password.defaultSalt,
      Password.salt, Password.saltLength]
    obtain ⟨hlistable, hdistinct⟩ := orderly_start.hold hsalts hheld
    refine ⟨_, StaticList.parse_listText_eq hlistable, ?_⟩
    intro σ now drawn s
    constructor
    · intro user huser
      obtain ⟨n, hmem⟩ := ofPassword_mem_of_hold hheld huser
      have hget := StaticList.get?_ofCredentials_of_mem hdistinct hmem
      exact StaticList.status_authenticate_of_ofPassword hget now drawn s
    · intro username password habsent
      have hnone : ∀ c ∈ credentials, ¬c.username = username := by
        rintro c hc rfl
        exact habsent (username_mem_of_hold hheld hc)
      apply StaticList.status_authenticate_of_get?_eq_none
      rw [StaticList.get?_ofCredentials, List.filter_eq_nil_iff.mpr (by simpa using hnone)]
      rfl

/-- Three credentials of two users, and a dialogue with refused answers at every stage. -/
theorem listText_lets_in_two_users :
    let credentials : List Credential := [.ofDigest "bob" [1] (some [2]),
      .ofDigest "eve" [1] (some [2]), .ofDigest "bob" [3] (some [4])]
    let lines := ["a b", "alice", " ", "s3cret", "?", "y", "alice", "bob", "pw", "n"].map utf8
    let salts (n : Nat) := Password.defaultSalt fun i => UInt8.ofNat (16 * n + i)
    (∀ c ∈ credentials, c.Listable) ∧
    (∃ list, StaticList.parse (Credential.listText credentials) = .ok list ∧
      list.credentials.get? "bob" = some (.ofDigest "bob" [3] (some [4]))) ∧
    (hold salts {} lines).result =
      .ok [.ofPassword "alice" "s3cret" (salts 0), .ofPassword "bob" "pw" (salts 1)] ∧
    ∃ list, StaticList.parse (Credential.listText
        [.ofPassword "alice" "s3cret" (salts 0), .ofPassword "bob" "pw" (salts 1)]) = .ok list ∧
      (list.authenticate ManualClock.read "bob" "pw" [] {}).1.status = .success ∧
      (list.authenticate ManualClock.read "a" "pw" [] {}).1.status = .failure := by
  intro credentials lines salts
  have hlistable : ∀ c ∈ credentials, c.Listable := by
    intro c hc
    simp only [credentials, List.mem_cons, List.not_mem_nil, or_false] at hc
    rcases hc with rfl | rfl | rfl <;> exact ⟨by decide, by decide, by decide⟩
  have hheld : (hold salts {} lines).result =
    .ok [.ofPassword "alice" "s3cret" (salts 0), .ofPassword "bob" "pw" (salts 1)] := by rfl
  have husers : users salts {} lines = [("alice", "s3cret"), ("bob", "pw")] := by rfl
  obtain ⟨list, hparse, hget, -, -⟩ := listText_lets_in_users.1 credentials hlistable
  obtain ⟨made, hmade, husable⟩ := listText_lets_in_users.2 _ lines _ hheld
  obtain ⟨hsuccess, hfailure⟩ := husable ManualClock.read [] {}
  refine ⟨hlistable, ⟨list, hparse, ?_⟩, hheld, made, hmade, ?_, ?_⟩
  · rw [hget]
    rfl
  · exact hsuccess ("bob", "pw") (by rw [husers]; decide)
  · exact hfailure "a" "pw" (by rw [husers]; decide)

end DirectoryAuth.Dialogue
