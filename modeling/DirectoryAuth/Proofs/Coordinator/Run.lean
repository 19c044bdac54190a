import DirectoryAuth.Coordinator

/-! Runs of a coordinator: requests in any number and order, with the cache read, pruned and resized
between them, and with every question to the directory recorded. -/
namespace DirectoryAuth

structure Request where
  username : String
  password : String
  deriving DecidableEq, Repr

/-- A question to the directory, and its answer. -/
structure Query where
  request : Request
  answer : Except DirectoryError Bool

variable {σ : Type}

/-- The world with the questions to its directory recorded, the latest last. -/
def World.recorded (w : World σ) : World (σ × List Query) where
  now s :=
    let (time, t) := w.now s.1
    (time, t, s.2)
  verify username password s :=
    let (answer, t) := w.verify username password s.1
    (answer, t, s.2 ++ [⟨⟨username, password⟩, answer⟩])

/-- A request that has been served, between two states of the world. -/
structure Turn (σ : Type) where
  request : Request
  attempt : Attempt
  /-- What the directory was asked meanwhile. -/
  queries : List Query
  before : σ
  after : σ

/-- What can be done with a coordinator and its cache. -/
inductive Operation where
  | authenticate (request : Request)
  | latest (credential : Credential)
  | history (credential : Credential)
  | count (credential : Credential)
  | prune (credential : Credential)
  | pruneAll
  | setDepth (depth : Nat)

inductive Answer (σ : Type) where
  | turn (turn : Turn σ)
  | latest (attempt : Option Attempt)
  | history (attempts : List Attempt)
  | count (n : Nat)
  | done

def Answer.turn? : Answer σ → Option (Turn σ)
  | turn t => some t
  | _ => none

/-- One operation of a run, between two states of the coordinator. -/
structure Step (σ : Type) where
  before : Coordinator
  answer : Answer σ
  after : Coordinator

namespace Coordinator

/-- Serves one request with a fresh record of questions. -/
def turn (w : World σ) (c : Coordinator) (request : Request) (s : σ) : Turn σ × Coordinator :=
  let reply := c.authenticate w.recorded request.username request.password (s, [])
  (⟨request, reply.attempt, reply.world.2, s, reply.world.1⟩, reply.coordinator)

def withCache (c : Coordinator) (cache : AttemptCache) : Coordinator := { c with cache := cache }

def perform (w : World σ) (c : Coordinator) (s : σ) : Operation → Answer σ × Coordinator × σ
  | .authenticate request =>
    let (t, c') := c.turn w request s
    (.turn t, c', t.after)
  | .latest credential =>
    let (attempt, cache) := c.cache.mostRecent credential
    (.latest attempt, c.withCache cache, s)
  | .history credential => (.history (c.cache.attempts credential), c, s)
  | .count credential => (.count (c.cache.count credential), c, s)
  | .prune credential => (.done, c.withCache (c.cache.prune credential), s)
  | .pruneAll => (.done, c.withCache c.cache.pruneAll, s)
  | .setDepth depth => (.done, c.withCache (c.cache.setDepth depth), s)

def run (w : World σ) : List Operation → Coordinator → σ → List (Step σ)
  | [], _, _ => []
  | operation :: rest, c, s =>
    let (answer, c', s') := c.perform w s operation
    ⟨c, answer, c'⟩ :: run w rest c' s'

/-- The requests of a run, in order. -/
def turns (w : World σ) (operations : List Operation) (c : Coordinator) (s : σ) : List (Turn σ) :=
  (run w operations c s).filterMap fun step => step.answer.turn?

/-- Recording the questions changes nothing about the request that asks them. -/
theorem turn_eq_authenticate (w : World σ) (c : Coordinator) (request : Request) (s : σ) :
    let reply := c.authenticate w request.username request.password s
    (c.turn w request s).1.attempt = reply.attempt ∧ (c.turn w request s).1.after = reply.world ∧
      (c.turn w request s).2 = reply.coordinator ∧
      ((c.turn w request s).1.queries ≠ [] ↔ reply.asked = true) := by
  simp only [turn, authenticate, World.recorded]
  split
  · exact ⟨rfl, rfl, rfl, by simp⟩
  · exact ⟨rfl, rfl, rfl, by simp⟩

/-- What every operation keeps holds before each step of a run, and each step is an operation. -/
theorem of_mem_run {w : World σ} {P : Coordinator → Prop}
    (hkeep : ∀ c s operation, P c → P (c.perform w s operation).2.1)
    {operations : List Operation} {c : Coordinator} {s : σ} (hc : P c) {step : Step σ}
    (h : step ∈ run w operations c s) : P step.before ∧ ∃ s operation,
      step.answer = (step.before.perform w s operation).1 ∧
        step.after = (step.before.perform w s operation).2.1 := by
  induction operations generalizing c s with
  | nil => contradiction
  | cons operation rest ih =>
    rcases List.mem_cons.mp h with rfl | h
    · exact ⟨hc, s, operation, rfl, rfl⟩
    · exact ih (hkeep c s operation hc) h

section
variable (w : World σ) (c : Coordinator) (request : Request) (s : σ)

/-- The credential that a request makes. -/
abbrev credentialOf : Credential := .ofPassword request.username request.password c.salt

/-- A request that is answered from the cache reads the clock twice and asks nothing. -/
theorem turn_of_replayed {earlier : Attempt}
    (h : c.replayed? (c.credentialOf request) (w.now s).1 = some earlier) :
    c.turn w request s =
      (⟨request, ⟨some (c.credentialOf request), (w.now s).1, earlier.status,
          replayMessage earlier.message, some (w.now (w.now s).2).1⟩, [], s,
          (w.now (w.now s).2).2⟩, c.lookedUp (c.credentialOf request)) := by
  simp only [turn, authenticate, World.recorded, h]
  rfl

/-- Any other request asks the directory once, between the two readings of the clock. -/
theorem turn_of_not_replayed
    (h : c.replayed? (c.credentialOf request) (w.now s).1 = none) :
    let asked := w.verify request.username request.password (w.now s).2
    let attempt : Attempt := ⟨some (c.credentialOf request), (w.now s).1, (outcome asked.1).1,
      (outcome asked.1).2, some (w.now asked.2).1⟩
    c.turn w request s =
      (⟨request, attempt, [⟨request, asked.1⟩], s, (w.now asked.2).2⟩,
        (c.lookedUp (c.credentialOf request)).record attempt) := by
  simp only [turn, authenticate, World.recorded, h]
  rfl

/-- Asked or not, the attempt is made with the credential of the request at the first reading of
the clock. -/
theorem turn_request : (c.turn w request s).1.request = request ∧
    (c.turn w request s).1.attempt.credential = some (c.credentialOf request) ∧
    (c.turn w request s).1.attempt.start = (w.now s).1 := by
  cases h : c.replayed? (c.credentialOf request) (w.now s).1 with
  | some earlier => rw [turn_of_replayed w c request s h]; exact ⟨rfl, rfl, rfl⟩
  | none => rw [turn_of_not_replayed w c request s h]; exact ⟨rfl, rfl, rfl⟩

/-- What a request that asks the directory comes to. -/
theorem turn_of_queries_ne_nil (h : (c.turn w request s).1.queries ≠ []) :
    let asked := w.verify request.username request.password (w.now s).2
    (c.turn w request s).1.attempt.status = (outcome asked.1).1 ∧
      (c.turn w request s).1.after = (w.now asked.2).2 := by
  cases hreplayed : c.replayed? (c.credentialOf request) (w.now s).1 with
  | some earlier =>
    rw [turn_of_replayed w c request s hreplayed] at h
    contradiction
  | none =>
    rw [turn_of_not_replayed w c request s hreplayed]
    exact ⟨rfl, rfl⟩

variable (rest : List Operation)

theorem turns_cons (operation : Operation) :
    turns w (operation :: rest) c s = (c.perform w s operation).1.turn?.toList ++
      turns w rest (c.perform w s operation).2.1 (c.perform w s operation).2.2 := by
  rw [turns, run, List.filterMap_cons]
  cases (c.perform w s operation).1.turn? with
  | none => rfl
  | some t => rfl

theorem turns_authenticate : turns w (.authenticate request :: rest) c s =
    (c.turn w request s).1 :: turns w rest (c.turn w request s).2 (c.turn w request s).1.after := by
  rw [turns_cons]
  rfl

end

section
variable {w : World σ} {I : σ → Prop} (hnow : ∀ s, I s → I (w.now s).2)
  (hverify : ∀ username password s, I s → I (w.verify username password s).2)
include hnow hverify

theorem keep_turn {s : σ} (hs : I s) (c : Coordinator) (request : Request) :
    I (c.turn w request s).1.after := by
  cases hreplayed : c.replayed? (c.credentialOf request) (w.now s).1 with
  | some earlier =>
    rw [turn_of_replayed w c request s hreplayed]
    exact hnow _ (hnow _ hs)
  | none =>
    rw [turn_of_not_replayed w c request s hreplayed]
    exact hnow _ (hverify _ _ _ (hnow _ hs))

/-- What clock and directory keep of the world holds before each request of a run. -/
theorem of_mem_turns {operations : List Operation} {c : Coordinator} {s : σ} (hs : I s)
    {t : Turn σ} (ht : t ∈ turns w operations c s) :
    I t.before ∧ ∃ c' : Coordinator, t = (c'.turn w t.request t.before).1 := by
  induction operations generalizing c s with
  | nil => contradiction
  | cons operation rest ih =>
    rw [turns_cons, List.mem_append] at ht
    cases operation with
    | authenticate request =>
      rcases ht with ht | ht
      · rw [List.mem_singleton.mp ht]
        exact ⟨hs, c, rfl⟩
      · exact ih (keep_turn hnow hverify hs c request) ht
    | _ => exact ih hs (ht.resolve_left List.not_mem_nil)

end

end Coordinator

/-- A state of one world, seen as a state of another one with the same clock and directory. -/
structure World.Shows {τ : Type} (w : World τ) (w' : World σ) (f : τ → σ) : Prop where
  now_eq : ∀ s, w'.now (f s) = ((w.now s).1, f (w.now s).2)
  verify_eq : ∀ username password s, w'.verify username password (f s) =
    ((w.verify username password s).1, f (w.verify username password s).2)

def Turn.map {τ : Type} (f : τ → σ) (t : Turn τ) : Turn σ :=
  ⟨t.request, t.attempt, t.queries, f t.before, f t.after⟩

def Answer.map {τ : Type} (f : τ → σ) : Answer τ → Answer σ
  | turn t => turn (t.map f)
  | latest attempt => latest attempt
  | history attempts => history attempts
  | count n => count n
  | done => done

def Step.map {τ : Type} (f : τ → σ) (step : Step τ) : Step σ :=
  ⟨step.before, step.answer.map f, step.after⟩

namespace Coordinator

variable {τ : Type} {w : World τ} {w' : World σ} {f : τ → σ}

theorem turn_map (h : w.Shows w' f) (c : Coordinator) (request : Request) (s : τ) :
    c.turn w' request (f s) = ((c.turn w request s).1.map f, (c.turn w request s).2) := by
  have hstart : (w'.now (f s)).1 = (w.now s).1 := by rw [h.now_eq]
  cases hreplayed : c.replayed? (c.credentialOf request) (w.now s).1 with
  | some earlier =>
    rw [turn_of_replayed w c request s hreplayed,
      turn_of_replayed w' c request (f s) (hstart ▸ hreplayed), h.now_eq, h.now_eq]
    rfl
  | none =>
    rw [turn_of_not_replayed w c request s hreplayed,
      turn_of_not_replayed w' c request (f s) (hstart ▸ hreplayed)]
    simp only [h.now_eq, h.verify_eq]
    rfl

/-- A run in one world, seen from the other. -/
theorem run_map (h : w.Shows w' f) (operations : List Operation) (c : Coordinator) (s : τ) :
    run w' operations c (f s) = (run w operations c s).map (Step.map f) := by
  induction operations generalizing c s with
  | nil => rfl
  | cons operation rest ih =>
    have hstep : c.perform w' (f s) operation = ((c.perform w s operation).1.map f,
        (c.perform w s operation).2.1, f (c.perform w s operation).2.2) := by
      cases operation with
      | authenticate request =>
        simp only [perform, turn_map h]
        rfl
      | _ => rfl
    simp only [run, hstep, ih, List.map_cons]
    rfl

theorem turns_map (h : w.Shows w' f) (operations : List Operation) (c : Coordinator) (s : τ) :
    turns w' operations c (f s) = (turns w operations c s).map (Turn.map f) := by
  have hturn : (fun step : Step τ => (step.map f).answer.turn?) =
      fun step => step.answer.turn?.map (Turn.map f) := by
    funext step
    obtain ⟨before, answer, after⟩ := step
    cases answer <;> rfl
  rw [turns, turns, run_map h, List.filterMap_map, List.map_filterMap]
  exact congrArg (fun turn? => List.filterMap turn? _) hturn

end Coordinator

end DirectoryAuth
