import DirectoryAuth.Directory.Memory
import DirectoryAuth.Proofs.Coordinator.Recall
import DirectoryAuth.Proofs.Settings.Cache

/-! Which attempts are young enough to be repeated. Ages are exact, in nanoseconds, and an attempt
as old as the limit is too old. A limit beyond the longest duration is cut down to it, which shows
nowhere but in the limit itself: no two instants are that far apart. -/
namespace DirectoryAuth

/-- The directory is not asked: outcome and message are those of an earlier attempt. -/
structure Turn.Replays {σ : Type} (t : Turn σ) (earlier : Attempt) : Prop where
  queries_eq : t.queries = []
  status_eq : t.attempt.status = earlier.status
  message_eq : t.attempt.message = Coordinator.replayMessage earlier.message

namespace Coordinator

/-- The coordinator with another age limit. -/
def withMaxAge (c : Coordinator) (maxAge : Int) : Coordinator := { c with maxAge := maxAge }

end Coordinator

def Step.withMaxAge {σ : Type} (maxAge : Int) (step : Step σ) : Step σ :=
  ⟨step.before.withMaxAge maxAge, step.answer, step.after.withMaxAge maxAge⟩

/-- Two age limits that no two instants tell apart. -/
def SameAges (a b : Int) : Prop :=
  ∀ later earlier : Instant, later.since earlier < a ↔ later.since earlier < b

theorem CacheSettings.sameAges (settings : CacheSettings) :
    SameAges settings.maxAge settings.ageLimit := settings.since_lt_maxAge_iff

namespace Coordinator

variable {σ : Type} {w : World σ} {c : Coordinator} {maxAge : Int}

theorem maxAge_lookedUp (c : Coordinator) (credential : Credential) :
    (c.lookedUp credential).maxAge = c.maxAge := by
  rw [lookedUp]
  split <;> rfl

theorem maxAge_record (c : Coordinator) (a : Attempt) : (c.record a).maxAge = c.maxAge := by
  rw [record]
  split <;> rfl

theorem lookedUp_withMaxAge (c : Coordinator) (maxAge : Int) (credential : Credential) :
    (c.withMaxAge maxAge).lookedUp credential = (c.lookedUp credential).withMaxAge maxAge := by
  rw [lookedUp, lookedUp, apply_ite fun d : Coordinator => d.withMaxAge maxAge]
  rfl

theorem record_withMaxAge (c : Coordinator) (maxAge : Int) (a : Attempt) :
    (c.withMaxAge maxAge).record a = (c.record a).withMaxAge maxAge := by
  rw [record, record, apply_ite fun d : Coordinator => d.withMaxAge maxAge]
  rfl

theorem replayed?_withMaxAge (h : SameAges c.maxAge maxAge) (credential : Credential)
    (start : Instant) :
    (c.withMaxAge maxAge).replayed? credential start = c.replayed? credential start := by
  have hyoung : (fun earlier : Attempt => decide (start.since earlier.start < c.maxAge)) =
      fun earlier => decide (start.since earlier.start < maxAge) :=
    funext fun earlier => decide_eq_decide.mpr (h start earlier.start)
  rw [replayed?, replayed?, hyoung]
  rfl

theorem turn_withMaxAge (h : SameAges c.maxAge maxAge) (request : Request) (s : σ) :
    (c.withMaxAge maxAge).turn w request s =
      ((c.turn w request s).1, (c.turn w request s).2.withMaxAge maxAge) := by
  have hsame := replayed?_withMaxAge h (c.credentialOf request) (w.now s).1
  cases hreplayed : c.replayed? (c.credentialOf request) (w.now s).1 with
  | some earlier =>
    rw [turn_of_replayed w c request s hreplayed,
      turn_of_replayed w _ request s (hsame.trans hreplayed)]
    exact congrArg (Prod.mk _) (lookedUp_withMaxAge c maxAge _)
  | none =>
    rw [turn_of_not_replayed w c request s hreplayed,
      turn_of_not_replayed w _ request s (hsame.trans hreplayed)]
    refine congrArg (Prod.mk _) ?_
    rw [← record_withMaxAge, ← lookedUp_withMaxAge]
    rfl

theorem maxAge_turn (c : Coordinator) (request : Request) (s : σ) :
    (c.turn w request s).2.maxAge = c.maxAge := by
  cases hreplayed : c.replayed? (c.credentialOf request) (w.now s).1 with
  | some earlier => rw [turn_of_replayed w c request s hreplayed, maxAge_lookedUp]
  | none => rw [turn_of_not_replayed w c request s hreplayed, maxAge_record, maxAge_lookedUp]

theorem maxAge_perform (c : Coordinator) (s : σ) (operation : Operation) :
    (c.perform w s operation).2.1.maxAge = c.maxAge := by
  cases operation with
  | authenticate request => exact maxAge_turn c request s
  | _ => rfl

theorem perform_withMaxAge (h : SameAges c.maxAge maxAge) (s : σ) (operation : Operation) :
    (c.withMaxAge maxAge).perform w s operation =
      ((c.perform w s operation).1, (c.perform w s operation).2.1.withMaxAge maxAge,
        (c.perform w s operation).2.2) := by
  cases operation with
  | authenticate request =>
    simp only [perform, turn_withMaxAge h]
  | _ => rfl

/-- Limits that no two instants tell apart lead to the same run. -/
theorem run_withMaxAge (h : SameAges c.maxAge maxAge) (operations : List Operation) (s : σ) :
    run w operations (c.withMaxAge maxAge) s =
      (run w operations c s).map (Step.withMaxAge maxAge) := by
  induction operations generalizing c s with
  | nil => rfl
  | cons operation rest ih =>
    have hnext : SameAges (c.perform w s operation).2.1.maxAge maxAge := by
      rwa [maxAge_perform]
    simp only [run, perform_withMaxAge h, ih hnext, List.map_cons]
    rfl

theorem turn_replays {request : Request} {s : σ} {earlier : Attempt}
    (h : c.replayed? (c.credentialOf request) (w.now s).1 = some earlier) :
    (c.turn w request s).1.Replays earlier := by
  rw [turn_of_replayed w c request s h]
  exact ⟨rfl, rfl, rfl⟩

section
variable (w : World σ) (request : Request) (s : σ) {earlier : Attempt}
  (henabled : c.cacheEnabled = true)
  (hearlier : (c.cache.mostRecent (c.credentialOf request)).1 = some earlier)
include henabled hearlier

theorem replayed?_of_mostRecent (start : Instant) : c.replayed? (c.credentialOf request) start =
    if start.since earlier.start < c.maxAge then some earlier else none := by
  rw [replayed?, if_pos henabled, hearlier]
  simp [Option.filter]

/-- An attempt below the age limit is repeated, and no other one is. -/
theorem replays_iff_since_lt_maxAge :
    (c.turn w request s).1.Replays earlier ↔ (w.now s).1.since earlier.start < c.maxAge := by
  have hreplayed := replayed?_of_mostRecent request henabled hearlier (w.now s).1
  constructor
  · intro h
    by_contra hold
    rw [if_neg hold] at hreplayed
    have hnil := h.queries_eq
    rw [turn_of_not_replayed w c request s hreplayed] at hnil
    contradiction
  · intro hyoung
    rw [if_pos hyoung] at hreplayed
    exact turn_replays hreplayed

theorem asked_of_maxAge_le (hold : c.maxAge ≤ (w.now s).1.since earlier.start) :
    ∃ answer, (c.turn w request s).1.queries = [⟨request, answer⟩] := by
  have hreplayed := replayed?_of_mostRecent request henabled hearlier (w.now s).1
  rw [if_neg (Int.not_lt.mpr hold)] at hreplayed
  rw [turn_of_not_replayed w c request s hreplayed]
  exact ⟨_, rfl⟩

end

open CacheSettings (longestAge)

/-- Freshness is decided exactly. The most recent attempt in the cache is repeated if it started
less than the limit of the settings before the request, to the nanosecond, and otherwise the
directory is asked once; neither the age nor the limit leaves the range of durations, and with the
limit as it was set every run goes the same way. -/
theorem replays_iff_since_lt_ageLimit (w : World σ) (settings : CacheSettings) (salt : Bytes)
    (cache : AttemptCache) (request : Request) (s : σ) {earlier : Attempt}
    (henabled : settings.enabled = true)
    (hearlier : (cache.mostRecent (.ofPassword request.username request.password salt)).1 =
      some earlier) :
    let c := (ofSettings settings salt).withCache cache
    let t := (c.turn w request s).1
    let age := (w.now s).1.nanos - earlier.start.nanos
    t.attempt.start = (w.now s).1 ∧
    (t.Replays earlier ↔ age < settings.maxAgeMillis.toNat * 1000000) ∧
    (settings.maxAgeMillis.toNat * 1000000 ≤ age →
      ∃ answer, t.queries = [⟨request, answer⟩]) ∧
    (-longestAge ≤ age ∧ age ≤ longestAge) ∧
    (0 ≤ settings.maxAge ∧ settings.maxAge ≤ longestAge) ∧
    ∀ operations, run w operations (c.withMaxAge settings.ageLimit) s =
      (run w operations c s).map (Step.withMaxAge settings.ageLimit) := by
  intro c t age
  have hlimit := settings.since_lt_maxAge_iff (w.now s).1 earlier.start
  have hreplays := replays_iff_since_lt_maxAge (c := c) w request s henabled hearlier
  have hasked := asked_of_maxAge_le (c := c) w request s henabled hearlier
  refine ⟨(turn_request w c request s).2.2, hreplays.trans hlimit, ?_,
    CacheSettings.abs_since_le_longestAge (w.now s).1 earlier.start,
    ⟨settings.maxAge_nonneg, settings.maxAge_le_longestAge⟩, ?_⟩
  · intro hold
    exact hasked (Int.not_lt.mp (mt hlimit.mp (Int.not_lt.mpr hold)))
  · intro operations
    exact run_withMaxAge settings.sameAges operations s

/-- One nanosecond below a limit of a millisecond, the limit itself, and the whole calendar under
the longest limit that can be set. -/
theorem replays_iff_since_lt_ageLimit_boundary :
    let request : Request := ⟨"alice", "secret"⟩
    let digest := Pbkdf2.derive (utf8 "secret") [7] Password.iterations Password.digestLength
    let attempt (start : Instant) : Attempt :=
      { credential := some (.ofPassword "alice" "secret" [7]), start := start }
    let turnAt (millis : UInt64) (first now : Instant) : Turn MemoryDirectory :=
      (((ofSettings ⟨true, 10, millis⟩ [7]).withCache
        (AttemptCache.put {} ("alice", digest) (attempt first))).turn MemoryDirectory.world request
          { clock := { time := now } }).1
    (turnAt 1 .epoch (.ofNanos 999999)).Replays (attempt .epoch) ∧
      ¬(turnAt 1 .epoch (.ofNanos 1000000)).Replays (attempt .epoch) ∧
      (turnAt 18446744073709551615 .first .last).Replays (attempt .first) := by
  intro request digest attempt turnAt
  have hdigest : Password.digest? [7] "secret" = some digest := if_neg (by decide)
  have hslot : (Credential.ofPassword "alice" "secret" [7]).slot? = some ("alice", digest) := by
    rw [Credential.slot?_ofPassword, if_neg (by decide), hdigest]
    rfl
  have hearlier : ∀ first, ((AttemptCache.put {} ("alice", digest) (attempt first)).mostRecent
      (.ofPassword "alice" "secret" [7])).1 = some (attempt first) := by
    intro first
    have htidy := (AttemptCache.tidy_empty defaultDepth).put ("alice", digest) (attempt first)
    rw [htidy.mostRecent_eq, AttemptCache.history?_put, if_pos hslot]
    rfl
  have hreplays (millis : UInt64) (first now : Instant) :=
    (replays_iff_since_lt_ageLimit MemoryDirectory.world ⟨true, 10, millis⟩ [7] _ request
      { clock := { time := now } } rfl (hearlier first)).2.1
  refine ⟨(hreplays ..).mpr ?_, mt (hreplays ..).mp ?_, (hreplays ..).mpr ?_⟩
  · decide
  · decide
  · decide

end Coordinator

end DirectoryAuth
