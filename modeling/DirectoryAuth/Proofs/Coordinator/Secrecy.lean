import DirectoryAuth.Proofs.Attempt.Shown
import DirectoryAuth.Proofs.Coordinator.Recall
import Mathlib.Data.List.Forall2

/-! What two runs show that differ in salts and passwords only. Their caches have different keys,
but histories of corresponding credentials differ in nothing except for the credentials. -/
namespace DirectoryAuth
open Credential (Slot)

/-- Two requests of one user, one in each of two runs. -/
structure TwinRequest where
  username : String
  left : String
  right : String
  deriving DecidableEq, Repr

namespace TwinRequest

def first (r : TwinRequest) : Request := ⟨r.username, r.left⟩

def second (r : TwinRequest) : Request := ⟨r.username, r.right⟩

end TwinRequest

/-- Passwords of two runs that are blank together and repeated together. -/
structure Alike (salt salt' : Bytes) (requests : List TwinRequest) : Prop where
  blank : ∀ r ∈ requests, Text.isBlank r.left = Text.isBlank r.right
  digests : ∀ a ∈ requests, ∀ b ∈ requests, a.username = b.username →
    (Password.digest? salt a.left = Password.digest? salt b.left ↔
      Password.digest? salt' a.right = Password.digest? salt' b.right)

namespace Alike

variable {salt salt' : Bytes} {requests : List TwinRequest}

/-- The credential of a request in the first run has a slot if the one in the second run has. -/
theorem slot?_eq_none_iff (h : Alike salt salt' requests) {r : TwinRequest} (hr : r ∈ requests) :
    (Credential.ofPassword r.username r.left salt).slot? = none ↔
      (Credential.ofPassword r.username r.right salt').slot? = none := by
  rw [Credential.slot?_ofPassword, Credential.slot?_ofPassword]
  split
  · exact Iff.rfl
  · rw [Option.map_eq_none_iff, Option.map_eq_none_iff, Password.digest?_eq_none_iff,
      Password.digest?_eq_none_iff, h.blank r hr]

/-- Two requests share a slot in the one run if they do in the other. -/
theorem slot?_eq_some_iff (h : Alike salt salt' requests) {a b : TwinRequest} (ha : a ∈ requests)
    (hb : b ∈ requests) {slot slot' : Slot}
    (hslot : (Credential.ofPassword a.username a.left salt).slot? = some slot)
    (hslot' : (Credential.ofPassword a.username a.right salt').slot? = some slot') :
    (Credential.ofPassword b.username b.left salt).slot? = some slot ↔
      (Credential.ofPassword b.username b.right salt').slot? = some slot' := by
  obtain ⟨name, digest⟩ := slot
  obtain ⟨name', digest'⟩ := slot'
  rw [Credential.slot?_ofPassword_eq_some_iff] at hslot hslot' ⊢
  rw [Credential.slot?_ofPassword_eq_some_iff]
  obtain ⟨hname, rfl, hdigest⟩ := hslot
  obtain ⟨-, rfl, hdigest'⟩ := hslot'
  have hsame : b.username = a.username →
      (Password.digest? salt b.left = some digest ↔
        Password.digest? salt' b.right = some digest') := by
    intro husername
    rw [← hdigest, ← hdigest']
    exact h.digests b hb a ha husername
  constructor
  · rintro ⟨-, husername, hleft⟩
    exact ⟨hname, husername, (hsame husername).mp hleft⟩
  · rintro ⟨-, husername, hright⟩
    exact ⟨hname, husername, (hsame husername).mpr hright⟩

end Alike

namespace Coordinator

variable {salt salt' : Bytes} {settings : CacheSettings} {requests : List TwinRequest}
  {c c' : Coordinator}

/-- Caches of two runs that differ in credentials only. -/
structure Mirrors (requests : List TwinRequest) (salt salt' : Bytes) (cache cache' : AttemptCache) :
    Prop where
  depth_eq : cache.depth = cache'.depth
  size_eq : cache.size = cache'.size
  history?_eq : ∀ r ∈ requests,
    (cache.history? (.ofPassword r.username r.left salt)).map History.shown =
      (cache'.history? (.ofPassword r.username r.right salt')).map History.shown

theorem Mirrors.put {cache cache' : AttemptCache} (h : Mirrors requests salt salt' cache cache')
    (halike : Alike salt salt' requests) {r : TwinRequest} (hr : r ∈ requests) {slot slot' : Slot}
    (hslot : (Credential.ofPassword r.username r.left salt).slot? = some slot)
    (hslot' : (Credential.ofPassword r.username r.right salt').slot? = some slot')
    {a a' : Attempt} (ha : a.shown = a'.shown) :
    Mirrors requests salt salt' (cache.put slot a) (cache'.put slot' a') where
  depth_eq := h.depth_eq
  size_eq := by
    have hsome : (cache.history? (.ofPassword r.username r.left salt)).isSome =
        (cache'.history? (.ofPassword r.username r.right salt')).isSome := by
      simpa using congrArg Option.isSome (h.history?_eq r hr)
    rw [cache.size_put a hslot, cache'.size_put a' hslot', hsome, h.size_eq]
  history?_eq other hother := by
    rw [AttemptCache.history?_put, AttemptCache.history?_put]
    have hsame := halike.slot?_eq_some_iff hr hother hslot hslot'
    by_cases hput : (Credential.ofPassword other.username other.left salt).slot? = some slot
    · rw [if_pos hput, if_pos (hsame.mp hput), Option.map_some, Option.map_some,
        History.shown_add, History.shown_add, cache.historyFor_shown hslot,
        cache'.historyFor_shown hslot', h.history?_eq r hr, h.depth_eq, ha]
    · rw [if_neg hput, if_neg fun hput' => hput (hsame.mpr hput')]
      exact h.history?_eq other hother

/-- Two runs repeat attempts at the same requests. -/
theorem Mirrors.replayed?_shown (h : Mirrors requests salt salt' c.cache c'.cache)
    (hc : c.Configured settings salt) (hc' : c'.Configured settings salt') {r : TwinRequest}
    (hr : r ∈ requests) (start : Instant) :
    (c.replayed? (c.credentialOf r.first) start).map Attempt.shown =
      (c'.replayed? (c'.credentialOf r.second) start).map Attempt.shown := by
  cases henabled : settings.enabled with
  | false =>
    rw [replayed?_of_disabled (hc.enabled_eq.trans henabled),
      replayed?_of_disabled (hc'.enabled_eq.trans henabled)]
  | true =>
    have hshown : ∀ history? : Option History,
        ((history?.bind (·.mostRecent?)).filter fun earlier =>
          start.since earlier.start < settings.maxAge).map Attempt.shown =
        ((history?.map History.shown).bind (·.mostRecent?)).filter fun earlier =>
          start.since earlier.start < settings.maxAge := by
      intro history?
      cases history? with
      | none => rfl
      | some history =>
        rw [Option.map_some, Option.bind_some, Option.bind_some, History.mostRecent?_shown]
        cases history.mostRecent? with
        | none => rfl
        | some earlier => exact (apply_ite (Option.map Attempt.shown) _ _ _)
    rw [replayed?_eq (hc.enabled_eq.trans henabled) hc.tidy,
      replayed?_eq (hc'.enabled_eq.trans henabled) hc'.tidy, hc.maxAge_eq, hc'.maxAge_eq, hshown,
      hshown, credentialOf, credentialOf, hc.salt_eq, hc'.salt_eq]
    exact congrArg (fun history => Option.filter _ (Option.bind history _)) (h.history?_eq r hr)

theorem Mirrors.record (h : Mirrors requests salt salt' c.cache c'.cache)
    (halike : Alike salt salt' requests) (hc : c.Configured settings salt)
    (hc' : c'.Configured settings salt') {r : TwinRequest} (hr : r ∈ requests) {a a' : Attempt}
    (ha : a.credential = some (.ofPassword r.username r.left salt))
    (ha' : a'.credential = some (.ofPassword r.username r.right salt'))
    (hshown : a.shown = a'.shown) :
    Mirrors requests salt salt' (c.record a).cache (c'.record a').cache := by
  cases henabled : settings.enabled with
  | false =>
    rw [record_of_disabled (hc.enabled_eq.trans henabled),
      record_of_disabled (hc'.enabled_eq.trans henabled)]
    exact h
  | true =>
    cases hslot : (Credential.ofPassword r.username r.left salt).slot? with
    | none =>
      rw [record_of_slot?_eq_none ha hslot,
        record_of_slot?_eq_none ha' ((halike.slot?_eq_none_iff hr).mp hslot)]
      exact h
    | some slot =>
      cases hslot' : (Credential.ofPassword r.username r.right salt').slot? with
      | none =>
        rw [(halike.slot?_eq_none_iff hr).mpr hslot'] at hslot
        contradiction
      | some slot' =>
        rw [record_of_slot? (hc.enabled_eq.trans henabled) ha hslot,
          record_of_slot? (hc'.enabled_eq.trans henabled) ha' hslot']
        exact h.put halike hr hslot hslot' hshown

variable {σ τ : Type}

/-- One request in both runs: with the same readings of the clock and, if both ask, with the same
answer, it comes to the same attempt but for the credential. -/
theorem Mirrors.turn (h : Mirrors requests salt salt' c.cache c'.cache)
    (halike : Alike salt salt' requests) (hc : c.Configured settings salt)
    (hc' : c'.Configured settings salt') {r : TwinRequest} (hr : r ∈ requests) (w : World σ)
    (w' : World τ) (s : σ) (s' : τ)
    (hstart : (c.turn w r.first s).1.attempt.start = (c'.turn w' r.second s').1.attempt.start)
    (hfinish : (c.turn w r.first s).1.attempt.finish = (c'.turn w' r.second s').1.attempt.finish)
    (hanswer : ∀ q ∈ (c.turn w r.first s).1.queries, ∀ q' ∈ (c'.turn w' r.second s').1.queries,
      q.answer = q'.answer) :
    (c.turn w r.first s).1.queries.isEmpty = (c'.turn w' r.second s').1.queries.isEmpty ∧
      (c.turn w r.first s).1.attempt.shown = (c'.turn w' r.second s').1.attempt.shown ∧
      Mirrors requests salt salt' (c.turn w r.first s).2.cache
        (c'.turn w' r.second s').2.cache := by
  obtain ⟨-, hcredential, hstart₁⟩ := turn_request w c r.first s
  obtain ⟨-, hcredential', hstart₂⟩ := turn_request w' c' r.second s'
  rw [credentialOf, hc.salt_eq] at hcredential
  rw [credentialOf, hc'.salt_eq] at hcredential'
  have hclock : (w.now s).1 = (w'.now s').1 := hstart₁.symm.trans (hstart.trans hstart₂)
  have hreplays := h.replayed?_shown hc hc' hr (w.now s).1
  cases hreplayed : c.replayed? (c.credentialOf r.first) (w.now s).1 with
  | some earlier =>
    rw [hreplayed, Option.map_some, hclock, eq_comm, Option.map_eq_some_iff] at hreplays
    obtain ⟨earlier', hreplayed', hshown⟩ := hreplays
    rw [turn_of_replayed w c r.first s hreplayed] at hfinish ⊢
    rw [turn_of_replayed w' c' r.second s' hreplayed'] at hfinish ⊢
    rw [lookedUp_eq_self hc.tidy, lookedUp_eq_self hc'.tidy]
    obtain ⟨-, hstatus, hmessage, -⟩ := Attempt.shown_eq_iff.mp hshown
    refine ⟨rfl, ?_, h⟩
    rw [Attempt.shown_eq_iff, hstatus, hmessage]
    exact ⟨hclock, rfl, rfl, hfinish⟩
  | none =>
    rw [hreplayed, Option.map_none, hclock, eq_comm, Option.map_eq_none_iff] at hreplays
    rw [turn_of_not_replayed w c r.first s hreplayed] at hfinish hanswer hcredential ⊢
    rw [turn_of_not_replayed w' c' r.second s' hreplays] at hfinish hanswer hcredential' ⊢
    have hsame := hanswer _ (List.mem_singleton_self _) _ (List.mem_singleton_self _)
    have hshown := Attempt.shown_eq_iff.mpr
      ⟨hclock, congrArg (fun answer => (outcome answer).1) hsame,
        congrArg (fun answer => (outcome answer).2) hsame, hfinish⟩
    refine ⟨rfl, hshown, ?_⟩
    rw [lookedUp_eq_self hc.tidy, lookedUp_eq_self hc'.tidy]
    exact h.record halike hc hc' hr hcredential hcredential' hshown

end Coordinator

variable {σ τ : Type}

/-- The world with the readings of its clock recorded, the latest last. -/
def World.timed (w : World σ) : World (σ × List Instant) where
  now s :=
    let (time, t) := w.now s.1
    (time, t, s.2 ++ [time])
  verify username password s :=
    let (answer, t) := w.verify username password s.1
    (answer, t, s.2)

theorem World.shows_timed (w : World σ) : w.timed.Shows w Prod.fst where
  now_eq _ := rfl
  verify_eq _ _ _ := rfl

/-- The readings of the clock during a request. -/
def Turn.readings (t : Turn (σ × List Instant)) : List Instant :=
  t.after.2.drop t.before.2.length

/-- Two requests with the same readings of the clock and, where both ask, the same answer. -/
structure Turn.SameSurroundings (t : Turn (σ × List Instant)) (t' : Turn (τ × List Instant)) :
    Prop where
  readings_eq : t.readings = t'.readings
  answer_eq : ∀ q ∈ t.queries, ∀ q' ∈ t'.queries, q.answer = q'.answer

/-- All that shows of a request: whether the directory is asked, the attempt that comes back, its
line in the log, and how many keys and how many attempts for each credential the cache has then. -/
structure Observation where
  asked : Bool
  status : Status
  message : String
  start : Instant
  finish : Option Instant
  logEntry : LogEntry
  size : Nat
  counts : List Nat

def Step.observed (credentials : List Credential) (step : Step σ) : Option Observation :=
  step.answer.turn?.map fun t =>
    { asked := !t.queries.isEmpty
      status := t.attempt.status
      message := t.attempt.message
      start := t.attempt.start
      finish := t.attempt.finish
      logEntry := t.attempt.logEntry
      size := step.after.cache.size
      counts := credentials.map step.after.cache.count }

theorem Step.observed_map (f : τ → σ) (credentials : List Credential) (step : Step τ) :
    (step.map f).observed credentials = step.observed credentials := by
  obtain ⟨before, answer, after⟩ := step
  cases answer <;> rfl

namespace TwinRequest

variable (requests : List TwinRequest)

def firstRun : List Operation := requests.map fun r => .authenticate r.first

def secondRun : List Operation := requests.map fun r => .authenticate r.second

def firstCredentials (salt : Bytes) : List Credential :=
  requests.map fun r => .ofPassword r.username r.left salt

def secondCredentials (salt : Bytes) : List Credential :=
  requests.map fun r => .ofPassword r.username r.right salt

end TwinRequest

namespace Coordinator
open TwinRequest

variable {salt salt' : Bytes} {settings : CacheSettings} {requests : List TwinRequest}
  {c c' : Coordinator}

/-- The attempt of a request carries the two readings of the clock. -/
theorem readings_turn (w : World σ) (c : Coordinator) (request : Request)
    (s : σ × List Instant) : ∃ finish, (c.turn w.timed request s).1.attempt.finish = some finish ∧
      (c.turn w.timed request s).1.readings =
        [(c.turn w.timed request s).1.attempt.start, finish] := by
  cases hreplayed : c.replayed? (c.credentialOf request) (w.timed.now s).1 with
  | some earlier =>
    rw [turn_of_replayed w.timed c request s hreplayed]
    exact ⟨_, rfl, by simp [Turn.readings, World.timed]⟩
  | none =>
    rw [turn_of_not_replayed w.timed c request s hreplayed]
    exact ⟨_, rfl, by simp [Turn.readings, World.timed]⟩

theorem mirrors_ofSettings (requests : List TwinRequest) (settings : CacheSettings)
    (salt salt' : Bytes) : Mirrors requests salt salt' (ofSettings settings salt).cache
      (ofSettings settings salt').cache where
  depth_eq := rfl
  size_eq := rfl
  history?_eq r _ := by
    have hempty : ∀ credential, (ofSettings settings salt).cache.history? credential = none := by
      intro credential
      rw [AttemptCache.history?_eq]
      cases credential.slot? <;> rfl
    rw [hempty]
    exact congrArg (Option.map History.shown) (hempty _).symm

theorem Mirrors.counts_eq {cache cache' : AttemptCache}
    (h : Mirrors requests salt salt' cache cache') :
    (firstCredentials requests salt).map cache.count =
      (secondCredentials requests salt').map cache'.count := by
  rw [firstCredentials, secondCredentials, List.map_map, List.map_map]
  apply List.map_congr_left
  intro r hr
  change cache.count _ = cache'.count _
  rw [AttemptCache.count_eq, AttemptCache.count_eq, h.history?_eq r hr]

theorem Mirrors.observed_eq {d d' : Coordinator}
    (h : Mirrors requests salt salt' d.cache d'.cache) {t : Turn σ} {t' : Turn τ}
    (hasked : t.queries.isEmpty = t'.queries.isEmpty)
    (hshown : t.attempt.shown = t'.attempt.shown)
    (husername : t.attempt.username? = t'.attempt.username?) :
    (Step.mk c (.turn t) d).observed (firstCredentials requests salt) =
      (Step.mk c' (.turn t') d').observed (secondCredentials requests salt') := by
  obtain ⟨hstart, hstatus, hmessage, hfinish⟩ := Attempt.shown_eq_iff.mp hshown
  simp only [Step.observed, Answer.turn?, Option.map_some, hasked, hstatus, hmessage, hstart,
    hfinish, Attempt.logEntry_eq hshown husername, h.size_eq, h.counts_eq]

theorem Mirrors.run (halike : Alike salt salt' requests) (w : World σ) (w' : World τ)
    {rest : List TwinRequest} (hsub : rest ⊆ requests)
    (h : Mirrors requests salt salt' c.cache c'.cache) (hc : c.Configured settings salt)
    (hc' : c'.Configured settings salt') {s : σ × List Instant} {s' : τ × List Instant}
    (hsame : List.Forall₂ Turn.SameSurroundings (turns w.timed (firstRun rest) c s)
      (turns w'.timed (secondRun rest) c' s')) :
    (run w.timed (firstRun rest) c s).map (Step.observed (firstCredentials requests salt)) =
      (run w'.timed (secondRun rest) c' s').map
        (Step.observed (secondCredentials requests salt')) := by
  induction rest generalizing c c' s s' with
  | nil => rfl
  | cons r rest ih =>
    obtain ⟨hr, hrest⟩ := List.cons_subset.mp hsub
    change List.Forall₂ _ (turns w.timed (.authenticate r.first :: firstRun rest) c s)
      (turns w'.timed (.authenticate r.second :: secondRun rest) c' s') at hsame
    rw [turns_authenticate, turns_authenticate, List.forall₂_cons] at hsame
    obtain ⟨⟨hreadings, hanswer⟩, hlater⟩ := hsame
    obtain ⟨finish, hfinish, hfirst⟩ := readings_turn w c r.first s
    obtain ⟨finish', hfinish', hsecond⟩ := readings_turn w' c' r.second s'
    rw [hfirst, hsecond, List.cons.injEq, List.cons.injEq] at hreadings
    obtain ⟨hstart, rfl, -⟩ := hreadings
    -- the readings fix both times, so the attempts agree and the caches mirror each other again
    obtain ⟨hasked, hshown, hmirrors⟩ := h.turn halike hc hc' hr w.timed w'.timed s s' hstart
      (hfinish.trans hfinish'.symm) hanswer
    have husername : (c.turn w.timed r.first s).1.attempt.username? =
        (c'.turn w'.timed r.second s').1.attempt.username? := by
      rw [Attempt.username?, Attempt.username?, (turn_request w.timed c r.first s).2.1,
        (turn_request w'.timed c' r.second s').2.1]
      rfl
    apply List.cons_eq_cons.mpr
    constructor
    · exact hmirrors.observed_eq hasked hshown husername
    · exact ih hrest hmirrors (hc.perform w.timed s (.authenticate r.first))
        (hc'.perform w'.timed s' (.authenticate r.second)) hlater

/-- Secrets do not show. Let two runs have the same settings, usernames and readings of the clock,
with any salts, and passwords that are blank together and repeated together; and let the directory,
where both ask it, give both the same answer. Then nothing that can be observed tells them apart. -/
theorem observed_eq_of_alike (halike : Alike salt salt' requests) (settings : CacheSettings)
    (w : World σ) (w' : World τ) (s : σ) (s' : τ)
    (hsame : List.Forall₂ Turn.SameSurroundings
      (turns w.timed (firstRun requests) (ofSettings settings salt) (s, []))
      (turns w'.timed (secondRun requests) (ofSettings settings salt') (s', []))) :
    (run w (firstRun requests) (ofSettings settings salt) s).map
        (Step.observed (firstCredentials requests salt)) =
      (run w' (secondRun requests) (ofSettings settings salt') s').map
        (Step.observed (secondCredentials requests salt')) := by
  have hrun := (mirrors_ofSettings requests settings salt salt').run halike w w'
    (List.Subset.refl _) (configured_ofSettings settings salt)
    (configured_ofSettings settings salt') hsame
  have hfirst := run_map w.shows_timed (firstRun requests) (ofSettings settings salt) (s, [])
  have hsecond := run_map w'.shows_timed (secondRun requests) (ofSettings settings salt') (s', [])
  rw [hfirst, hsecond, List.map_map, List.map_map]
  simpa [Function.comp_def, Step.observed_map] using hrun

theorem readings_of_still {w : World σ} {time : Instant} (hnow : ∀ s, (w.now s).1 = time)
    (c : Coordinator) (request : Request) (s : σ × List Instant) :
    (c.turn w.timed request s).1.readings = [time, time] := by
  cases hreplayed : c.replayed? (c.credentialOf request) (w.timed.now s).1 with
  | some earlier =>
    rw [turn_of_replayed w.timed c request s hreplayed]
    simp [Turn.readings, World.timed, hnow]
  | none =>
    rw [turn_of_not_replayed w.timed c request s hreplayed]
    simp [Turn.readings, World.timed, hnow]

theorem answer_of_mem_queries (w : World σ) (c : Coordinator) (request : Request) (s : σ)
    {q : Query} (hq : q ∈ (c.turn w request s).1.queries) :
    ∃ s, q.answer = (w.verify request.username request.password s).1 := by
  cases hreplayed : c.replayed? (c.credentialOf request) (w.now s).1 with
  | some earlier =>
    rw [turn_of_replayed w c request s hreplayed] at hq
    contradiction
  | none =>
    rw [turn_of_not_replayed w c request s hreplayed] at hq
    rw [List.mem_singleton.mp hq]
    exact ⟨_, rfl⟩

/-- Two directories whose answers do not depend on the past, under a clock that stands still. -/
theorem sameSurroundings_of_still {w : World σ} {w' : World τ} {time : Instant}
    (hnow : ∀ s, (w.now s).1 = time) (hnow' : ∀ s, (w'.now s).1 = time)
    {rest : List TwinRequest} (hanswer : ∀ r ∈ rest, ∀ s s',
      (w.verify r.username r.left s).1 = (w'.verify r.username r.right s').1)
    (s : σ × List Instant) (s' : τ × List Instant) :
    List.Forall₂ Turn.SameSurroundings (turns w.timed (firstRun rest) c s)
      (turns w'.timed (secondRun rest) c' s') := by
  induction rest generalizing c c' s s' with
  | nil => exact .nil
  | cons r rest ih =>
    obtain ⟨hfirst, hrest⟩ := List.forall_mem_cons.mp hanswer
    change List.Forall₂ _ (turns w.timed (.authenticate r.first :: firstRun rest) c s)
      (turns w'.timed (.authenticate r.second :: secondRun rest) c' s')
    rw [turns_authenticate, turns_authenticate]
    refine .cons ⟨?_, ?_⟩ (ih hrest _ _)
    · rw [readings_of_still hnow, readings_of_still hnow']
    · intro q hq q' hq'
      obtain ⟨t, ht⟩ := answer_of_mem_queries w.timed c r.first s hq
      obtain ⟨t', ht'⟩ := answer_of_mem_queries w'.timed c' r.second s' hq'
      rw [ht, ht']
      exact hfirst t.1 t'.1

/-- A user who logs in twice, and another one who guesses wrongly, each with two passwords. -/
theorem observed_eq_of_alike_login :
    let requests : List TwinRequest := [⟨"alice", "secret", "hunter2"⟩,
      ⟨"alice", "secret", "hunter2"⟩, ⟨"bob", "guess", "letmein"⟩]
    let directory : String → World Unit := fun secret =>
      ⟨fun s => (.epoch, s), fun _ password s => (.ok (password == secret), s)⟩
    Alike [7] [9] requests ∧
      (run (directory "secret") (firstRun requests) (ofSettings ⟨true, 2, 1000⟩ [7]) ()).map
          (Step.observed (firstCredentials requests [7])) =
        (run (directory "hunter2") (secondRun requests) (ofSettings ⟨true, 2, 1000⟩ [9]) ()).map
          (Step.observed (secondCredentials requests [9])) := by
  intro requests directory
  have hnames : ∀ a ∈ requests, ∀ b ∈ requests, a.username = b.username → a = b := by decide
  have halike : Alike [7] [9] requests := by
    refine ⟨by decide, ?_⟩
    intro a ha b hb hname
    rw [hnames a ha b hb hname]
    exact iff_of_true rfl rfl
  have hanswer : ∀ r ∈ requests, (r.left == "secret") = (r.right == "hunter2") := by decide
  refine ⟨halike, observed_eq_of_alike halike ⟨true, 2, 1000⟩ (directory "secret")
    (directory "hunter2") () () ?_⟩
  apply sameSurroundings_of_still (fun _ => rfl) (fun _ => rfl)
  intro r hr _ _
  exact congrArg Except.ok (hanswer r hr)

end Coordinator

end DirectoryAuth
