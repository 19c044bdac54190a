import DirectoryAuth.CommandLine.Program
import DirectoryAuth.Proofs.Coordinator.Run
import DirectoryAuth.Proofs.Settings.Cache
import DirectoryAuth.Proofs.StaticList.Verdict

/-! The authenticator of settings with a list of credentials. The list and whether the cache can be
used decide what is built, and the list alone decides what users are told: neither the settings of
the directory nor the world in which a request is served has a part in it. -/
namespace DirectoryAuth
open CommandLine (Machine offline)

/-- What an attempt tells its user. -/
def Attempt.outcome (a : Attempt) : Status × String := (a.status, a.message)

namespace StaticList

/-- What a list tells a user. -/
def answer (list : StaticList) (request : Request) : Status × String :=
  match list.credentials.get? request.username with
  | none => (.failure, "Not a valid username: " ++ request.username)
  | some c =>
    if Password.digest? c.salt request.password = c.digest then
      (.success, "Successfully authenticated username: " ++ request.username)
    else (.failure, "Password does not match for username: " ++ request.username)

/-- Neither the clock nor the salt of an unknown user shows in what a user is told. -/
theorem outcome_authenticate {σ : Type} (now : σ → Instant × σ) (list : StaticList)
    (request : Request) (drawn : Bytes) (s : σ) :
    (list.authenticate now request.username request.password drawn s).1.outcome =
      list.answer request := by
  have hjudged := authenticate_judged now list request.username request.password drawn s
  generalize (list.authenticate now request.username request.password drawn s).1 = a at hjudged ⊢
  cases hjudged with
  | unknown absent => simp [answer, Attempt.outcome, absent]
  | refused known differs => simp [answer, Attempt.outcome, known, differs]
  | accepted known agrees => simp [answer, Attempt.outcome, known, agrees]

end StaticList

/-- The first thing that is wrong with a list of credentials, in the order of the checks: the cache
comes before every token, and a token before those that follow it. -/
inductive FirstFault (cache : CacheSettings) (tokens : List String) : Failure → Prop
  | cache (unusable : ¬cache.Usable) :
      FirstFault cache tokens (.settings (.invalid "Cache max depth must be greater than zero"))
  | token {before after : List String} {token : String} {e : CredentialError}
      (usable : cache.Usable) (split : tokens = before ++ token :: after)
      (read : ∀ t ∈ before, ∃ c, Credential.parse t = .ok c)
      (refused : Credential.parse token = .error e) : FirstFault cache tokens (.credential e)

namespace Authenticator

variable {κ σ : Type}

/-- What is built from a list of credentials, whatever world it is built in. -/
def ofListText (cache : CacheSettings) (text : String) : Except Failure (Authenticator κ) :=
  match cache.validate with
  | .error e => .error (.settings e)
  | .ok () => ((StaticList.parse text).mapError Failure.credential).map .static

section
variable {cache : CacheSettings} {text : String}

theorem ofListText_of_usable (h : cache.Usable) :
    (ofListText cache text : Except _ (Authenticator κ)) =
      ((StaticList.parse text).mapError Failure.credential).map .static := by
  rw [ofListText, CacheSettings.validate_of_usable h]

theorem ofListText_of_not_usable (h : ¬cache.Usable) :
    (ofListText cache text : Except _ (Authenticator κ)) =
      .error (.settings (.invalid "Cache max depth must be greater than zero")) := by
  rw [ofListText, CacheSettings.validate_of_not_usable h]

theorem ofListText_eq_ok_iff {a : Authenticator κ} : ofListText cache text = .ok a ↔
    cache.Usable ∧ ∃ list, StaticList.parse text = .ok list ∧ a = .static list := by
  by_cases h : cache.Usable
  · rw [ofListText_of_usable h]
    cases StaticList.parse text <;> simp [h, Except.mapError, Except.map, eq_comm]
  · rw [ofListText_of_not_usable h]
    simp [h]

theorem ofListText_eq_error_iff {e : Failure} :
    (ofListText cache text : Except _ (Authenticator κ)) = .error e ↔
      FirstFault cache (Text.words text) e := by
  by_cases h : cache.Usable
  · rw [ofListText_of_usable h]
    constructor
    · intro herror
      cases hparse : StaticList.parse text with
      | ok list => simp [hparse, Except.mapError, Except.map] at herror
      | error cause =>
        obtain ⟨before, token, after, hsplit, hread, hrefused⟩ :=
          StaticList.parse_eq_error_iff.mp hparse
        rw [hparse] at herror
        obtain rfl : .credential cause = e := Except.error.inj herror
        exact .token h hsplit hread hrefused
    · intro hfault
      cases hfault with
      | cache unusable => exact absurd h unusable
      | token _ split read refused =>
        rw [StaticList.parse_eq_error_iff.mpr ⟨_, _, _, split, read, refused⟩]
        rfl
  · rw [ofListText_of_not_usable h]
    constructor
    · intro herror
      obtain rfl := Except.error.inj herror
      exact .cache h
    · intro hfault
      cases hfault with
      | cache _ => rfl
      | token usable _ _ _ => exact absurd usable h

/-- Of a cache that is not used, only its usability counts. -/
theorem ofListText_congr {cache' : CacheSettings} (h : cache'.Usable ↔ cache.Usable) :
    (ofListText cache' text : Except _ (Authenticator κ)) = ofListText cache text := by
  by_cases hu : cache.Usable
  · rw [ofListText_of_usable hu, ofListText_of_usable (h.mpr hu)]
  · rw [ofListText_of_not_usable hu, ofListText_of_not_usable (mt h.mp hu)]

end

/-- Settings with a list build from the list, and the world is left as it is. -/
theorem build_of_list {settings : Settings} {text : String}
    (hlist : settings.staticCredentials = some text) (htext : Text.isBlank text = false)
    (around : Surroundings κ σ) (salt : Bytes) (s : σ) :
    build around settings salt s = (ofListText settings.cache text, s) := by
  have hselected : settings.staticList? = some text := by
    simp [Settings.staticList?, hlist, htext]
  have hvalidate : settings.validate = settings.cache.validate := by
    simp [Settings.validate, Settings.usesStaticCredentials, hselected]
  rw [build, hvalidate, hselected, ofListText]
  cases settings.cache.validate <;> rfl

/-- A list without a word in it counts as none. -/
theorem build_of_blank {settings : Settings} {text : String}
    (hlist : settings.staticCredentials = some text) (htext : Text.isBlank text = true)
    (around : Surroundings κ σ) (salt : Bytes) (s : σ) :
    build around settings salt s =
      build around { settings with staticCredentials := none } salt s := by
  have hselected : settings.staticList? = none := by
    simp [Settings.staticList?, hlist, htext]
  have hvalidate :
      settings.validate = { settings with staticCredentials := none }.validate := by
    rw [Settings.validate, Settings.validate, Settings.usesStaticCredentials, hselected]
    rfl
  rw [build, build, hvalidate, hselected]
  rfl

/-- Serves one request after the other. A salt is drawn for each. -/
def run (m : Machine κ σ) : Authenticator κ → List Request → σ → List Attempt
  | _, [], _ => []
  | a, r :: rest, s =>
    let (drawn, s) := m.draw s
    let (attempt, a, s) := a.authenticate m.toSurroundings r.username r.password drawn s
    attempt :: run m a rest s

/-- No request changes a list, so in every run it tells each user what it tells at first. -/
theorem outcome_run_static (m : Machine κ σ) (list : StaticList) (requests : List Request)
    (s : σ) : (run m (.static list) requests s).map Attempt.outcome = requests.map list.answer := by
  induction requests generalizing s with
  | nil => rfl
  | cons r rest ih =>
    rw [run, List.map_cons, List.map_cons]
    exact congrArg₂ List.cons (list.outcome_authenticate m.now r (m.draw s).1 (m.draw s).2) (ih _)

/-- A list of credentials takes over completely. Settings whose list has a word in it build an
authenticator exactly if their cache can be used and each token of the list can be read, the first
fault is the one that is reported, and there is a user on the list that is built. Other settings
with the same list and a cache that can be used as well, or cannot either, build the same in any
world, and what users are told in later runs is the same too. A blank list is like none. -/
theorem list_takes_over (settings : Settings) (text : String)
    (hlist : settings.staticCredentials = some text) :
    (Text.isBlank text = false →
      (∀ {κ σ : Type} (around : Surroundings κ σ) (salt : Bytes) (s : σ),
        let built := (build around settings salt s).1
        ((∃ a, built = .ok a) ↔ settings.cache.Usable ∧
          ∀ token ∈ Text.words text, ∃ c, Credential.parse token = .ok c) ∧
        (∀ e, built = .error e ↔ FirstFault settings.cache (Text.words text) e) ∧
        ∀ a, built = .ok a → ∃ list, a = .static list ∧ 0 < list.size) ∧
      ∀ settings' : Settings, settings'.staticCredentials = some text →
        (settings'.cache.Usable ↔ settings.cache.Usable) →
        ∀ {κ σ σ' : Type} (m : Machine κ σ) (m' : Machine κ σ') (salt salt' : Bytes) (s : σ)
          (s' : σ'),
        let built := (build m.toSurroundings settings salt s).1
        (build m'.toSurroundings settings' salt' s').1 = built ∧
        ∀ a, built = .ok a → ∀ (requests : List Request) (t : σ) (t' : σ'),
          (run m' a requests t').map Attempt.outcome =
            (run m a requests t).map Attempt.outcome) ∧
    (Text.isBlank text = true → ∀ {κ σ : Type} (around : Surroundings κ σ) (salt : Bytes) (s : σ),
      build around settings salt s =
        build around { settings with staticCredentials := none } salt s) := by
  refine ⟨fun htext => ⟨?_, ?_⟩, fun htext => build_of_blank hlist htext⟩
  · intro κ σ around salt s built
    have hbuilt : built = ofListText settings.cache text :=
      congrArg Prod.fst (build_of_list hlist htext around salt s)
    rw [hbuilt]
    refine ⟨?_, fun e => ofListText_eq_error_iff, ?_⟩
    · rw [← StaticList.exists_parse_eq_ok_iff]
      simp [ofListText_eq_ok_iff]
    · intro a ha
      obtain ⟨-, list, hparse, rfl⟩ := ofListText_eq_ok_iff.mp ha
      exact ⟨list, rfl, StaticList.size_pos_of_parse htext hparse⟩
  · intro settings' hlist' husable κ σ σ' m m' salt salt' s s' built
    have hbuilt : built = ofListText settings.cache text :=
      congrArg Prod.fst (build_of_list hlist htext m.toSurroundings salt s)
    rw [hbuilt, build_of_list hlist' htext]
    refine ⟨ofListText_congr husable, fun a ha requests t t' => ?_⟩
    obtain ⟨-, list, -, rfl⟩ := ofListText_eq_ok_iff.mp ha
    rw [outcome_run_static, outcome_run_static]

/-- Two users on a list, beside a directory that cannot be used. A cache without room is refused
before a token that cannot be read, and a list of blanks is none. -/
theorem list_takes_over_unusable_directory :
    let text := "bob:AQ==:Ag==\neve:AQ==:Aw=="
    let settings : Settings :=
      { ldap := { serverUrl := "http://a" }, staticCredentials := some text }
    let settings' : Settings := { cache := { enabled := true }, staticCredentials := some text }
    let faulty : Settings :=
      { cache := { enabled := true, maxDepth := 0 }, staticCredentials := some "bob" }
    let blank : Settings := { staticCredentials := some " \t" }
    let built (settings : Settings) :=
      build offline.toSurroundings settings [7] ⟨.epoch, []⟩
    settings.ldap.validate ≠ .ok () ∧
      (∃ list : StaticList, 0 < list.size ∧ (built settings).1 = .ok (.static list) ∧
        (built settings').1 = .ok (.static list) ∧ ∀ (requests : List Request) (t t' : _),
          (run offline (.static list) requests t').map Attempt.outcome =
            (run offline (.static list) requests t).map Attempt.outcome) ∧
      (built faulty).1 =
        .error (.settings (.invalid "Cache max depth must be greater than zero")) ∧
      built blank = built { blank with staticCredentials := none } := by
  intro text settings settings' faulty blank built
  have hwords : Text.words text = ["bob:AQ==:Ag==", "eve:AQ==:Aw=="] := by decide +kernel
  have hread : ∀ token ∈ Text.words text, ∃ c, Credential.parse token = .ok c := by
    rw [hwords, List.forall_mem_cons, List.forall_mem_singleton]
    exact ⟨⟨.ofDigest "bob" [1] (some [2]), by decide +kernel⟩,
      ⟨.ofDigest "eve" [1] (some [3]), by decide +kernel⟩⟩
  have husable : settings.cache.Usable := by decide
  have husable' : settings'.cache.Usable := by decide
  obtain ⟨hbuilt, hsame⟩ := (list_takes_over settings text rfl).1 (by decide +kernel)
  obtain ⟨hok, -, hstatic⟩ := hbuilt offline.toSurroundings [7] ⟨.epoch, []⟩
  obtain ⟨a, ha⟩ := hok.mpr ⟨husable, hread⟩
  obtain ⟨list, rfl, hsize⟩ := hstatic a ha
  have hunusable : ¬faulty.cache.Usable := by decide
  obtain ⟨-, hfaults, -⟩ := ((list_takes_over faulty "bob" rfl).1 (by decide)).1
    offline.toSurroundings [7] ⟨.epoch, []⟩
  have hblank :=
    (list_takes_over blank " \t" rfl).2 (by decide) offline.toSurroundings [7] ⟨.epoch, []⟩
  obtain ⟨hbuilt', hrun⟩ := hsame settings' rfl (iff_of_true husable' husable) offline offline
    [7] [7] ⟨.epoch, []⟩ ⟨.epoch, []⟩
  exact ⟨by decide +kernel, ⟨list, hsize, ha, hbuilt'.trans ha, hrun _ ha⟩,
    (hfaults _).mpr (.cache hunusable), hblank⟩

end Authenticator

end DirectoryAuth
