import DirectoryAuth.Proofs.Attempt.Cache
import DirectoryAuth.Proofs.Coordinator.Run

/-! What a coordinator finds in its cache, and what it puts there. While no history exceeds its
limit, looking for an earlier attempt leaves the coordinator as it was. -/
namespace DirectoryAuth
open Credential (Slot)

/-- The username and digest that a request was about. -/
def Turn.slot? {σ : Type} (t : Turn σ) : Option Slot := t.attempt.credential.bind (·.slot?)

namespace Coordinator

variable {c : Coordinator} {credential : Credential}

theorem lookedUp_eq_self (h : c.cache.Tidy) (credential : Credential) :
    c.lookedUp credential = c := by
  rw [lookedUp]
  split
  · rw [h.mostRecent_eq]
  · rfl

/-- The remembered attempt that started last, unless it is too old. -/
theorem replayed?_eq (henabled : c.cacheEnabled = true) (h : c.cache.Tidy)
    (credential : Credential) (start : Instant) : c.replayed? credential start =
      ((c.cache.history? credential).bind (·.mostRecent?)).filter fun earlier =>
        start.since earlier.start < c.maxAge := by
  rw [replayed?, if_pos henabled, h.mostRecent_eq]

theorem record_of_slot? {a : Attempt} {slot : Slot} (henabled : c.cacheEnabled = true)
    (ha : a.credential = some credential) (hs : credential.slot? = some slot) :
    c.record a = c.withCache (c.cache.put slot a) := by
  rw [record, if_pos henabled, AttemptCache.add_of_slot? ha hs]
  rfl

theorem record_of_slot?_eq_none {a : Attempt} (ha : a.credential = some credential)
    (hs : credential.slot? = none) : c.record a = c := by
  obtain ⟨e, he⟩ := AttemptCache.add_of_slot?_eq_none c.cache ha hs
  rw [record, he]
  split
  · rfl
  · rfl

theorem record_of_disabled (h : c.cacheEnabled = false) (a : Attempt) : c.record a = c := by
  rw [record, h]
  rfl

theorem replayed?_of_disabled (h : c.cacheEnabled = false) (credential : Credential)
    (start : Instant) : c.replayed? credential start = none := by
  rw [replayed?, h]
  rfl

theorem replayed?_of_slot?_eq_none (henabled : c.cacheEnabled = true) (h : c.cache.Tidy)
    (hs : credential.slot? = none) (start : Instant) : c.replayed? credential start = none := by
  rw [replayed?_eq henabled h, AttemptCache.history?_eq, hs]
  rfl

theorem replayed?_of_slot? (henabled : c.cacheEnabled = true) (h : c.cache.Tidy) {slot : Slot}
    (hs : credential.slot? = some slot) (start : Instant) : c.replayed? credential start =
      (c.cache.historyFor slot).mostRecent?.filter fun earlier =>
        start.since earlier.start < c.maxAge := by
  rw [replayed?_eq henabled h, AttemptCache.history?_of_slot? hs, AttemptCache.historyFor]
  cases c.cache.histories.get? (Credential.slotKey slot) with
  | none => rfl
  | some history => rfl

/-- A question is asked only once the most recent attempt has reached the age limit. -/
theorem maxAge_le_of_replayed?_eq_none (henabled : c.cacheEnabled = true) (h : c.cache.Tidy)
    {slot : Slot} (hs : credential.slot? = some slot) {start : Instant}
    (hnone : c.replayed? credential start = none) {earlier : Attempt}
    (hearlier : (c.cache.historyFor slot).mostRecent? = some earlier) :
    c.maxAge ≤ start.since earlier.start := by
  rw [replayed?_of_slot? henabled h hs, hearlier, Option.filter_eq_none_iff] at hnone
  have hold := hnone earlier rfl
  simpa using hold

/-- A coordinator as settings and a salt made it, with a cache in order. -/
structure Configured (settings : CacheSettings) (salt : Bytes) (c : Coordinator) : Prop where
  enabled_eq : c.cacheEnabled = settings.enabled
  maxAge_eq : c.maxAge = settings.maxAge
  salt_eq : c.salt = salt
  tidy : c.cache.Tidy

variable {settings : CacheSettings} {salt : Bytes} {σ : Type} (w : World σ)

theorem configured_ofSettings (settings : CacheSettings) (salt : Bytes) :
    (ofSettings settings salt).Configured settings salt :=
  ⟨rfl, rfl, rfl, AttemptCache.tidy_empty _⟩

theorem Configured.withCache (h : c.Configured settings salt) {cache : AttemptCache}
    (hcache : cache.Tidy) : (c.withCache cache).Configured settings salt :=
  ⟨h.enabled_eq, h.maxAge_eq, h.salt_eq, hcache⟩

/-- The attempt of a question, put under its slot once the age limit has passed there. -/
structure Records (c : Coordinator) (t : Turn σ) (slot : Slot) : Prop where
  enabled : c.cacheEnabled = true
  asked : t.queries ≠ []
  slot?_eq : t.slot? = some slot
  maxAge_le : ∀ earlier, (c.cache.historyFor slot).mostRecent? = some earlier →
    c.maxAge ≤ t.attempt.start.since earlier.start

/-- An attempt that is repeated is remembered under the slot of the request. -/
theorem Configured.mem_of_replayed? (h : c.Configured settings salt) {start : Instant}
    {earlier : Attempt} (hreplayed : c.replayed? credential start = some earlier) :
    settings.enabled = true ∧ ∃ slot, credential.slot? = some slot ∧
      earlier ∈ (c.cache.historyFor slot).attempts ∧
        start.since earlier.start < settings.maxAge := by
  cases henabled : c.cacheEnabled with
  | false =>
    rw [replayed?_of_disabled henabled] at hreplayed
    contradiction
  | true =>
    cases hslot : credential.slot? with
    | none =>
      rw [replayed?_of_slot?_eq_none henabled h.tidy hslot] at hreplayed
      contradiction
    | some slot =>
      rw [replayed?_of_slot? henabled h.tidy hslot, Option.filter_eq_some_iff] at hreplayed
      obtain ⟨hrecent, hyoung⟩ := hreplayed
      refine ⟨h.enabled_eq.symm.trans henabled, slot, rfl, History.mem_of_mostRecent? hrecent, ?_⟩
      rw [← h.maxAge_eq]
      simpa using hyoung

theorem slot?_turn (c : Coordinator) (request : Request) (s : σ) :
    (c.turn w request s).1.slot? = (c.credentialOf request).slot? := by
  rw [Turn.slot?, (turn_request w c request s).2.1]
  rfl

theorem Configured.turn_of_not_asked (h : c.Configured settings salt) {request : Request} {s : σ}
    (hnil : (c.turn w request s).1.queries = []) : (c.turn w request s).2 = c := by
  cases hreplayed : c.replayed? (c.credentialOf request) (w.now s).1 with
  | some earlier => rw [turn_of_replayed w c request s hreplayed, lookedUp_eq_self h.tidy]
  | none =>
    rw [turn_of_not_replayed w c request s hreplayed] at hnil
    contradiction

theorem Configured.turn_of_asked (h : c.Configured settings salt)
    (henabled : c.cacheEnabled = true) {request : Request} {s : σ} {slot : Slot}
    (hslot : (c.turn w request s).1.slot? = some slot)
    (hasked : (c.turn w request s).1.queries ≠ []) :
    c.Records (c.turn w request s).1 slot ∧
      (c.turn w request s).2 = c.withCache (c.cache.put slot (c.turn w request s).1.attempt) := by
  have hcredential := hslot
  rw [slot?_turn] at hcredential
  cases hreplayed : c.replayed? (c.credentialOf request) (w.now s).1 with
  | some earlier =>
    rw [turn_of_replayed w c request s hreplayed] at hasked
    contradiction
  | none =>
    refine ⟨⟨henabled, hasked, hslot, ?_⟩, ?_⟩
    · intro earlier hearlier
      rw [(turn_request w c request s).2.2]
      exact maxAge_le_of_replayed?_eq_none henabled h.tidy hcredential hreplayed hearlier
    · rw [turn_of_not_replayed w c request s hreplayed, lookedUp_eq_self h.tidy]
      exact record_of_slot? henabled rfl hcredential

/-- A slot without an attempt younger than the age limit is asked about. -/
theorem Configured.asked_of_old (h : c.Configured settings salt) (henabled : c.cacheEnabled = true)
    {request : Request} {s : σ} {slot : Slot} (hslot : (c.credentialOf request).slot? = some slot)
    (hold : ∀ earlier, (c.cache.historyFor slot).mostRecent? = some earlier →
      c.maxAge ≤ (w.now s).1.since earlier.start) : (c.turn w request s).1.queries ≠ [] := by
  have hnone : c.replayed? (c.credentialOf request) (w.now s).1 = none := by
    rw [replayed?_of_slot? henabled h.tidy hslot, Option.filter_eq_none_iff]
    intro earlier hearlier
    simpa using hold earlier hearlier
  rw [turn_of_not_replayed w c request s hnone]
  exact List.cons_ne_nil _ _

section
variable (hc : c.Configured settings salt) (henabled : c.cacheEnabled = true) (request : Request)
  (s : σ) {slot : Slot} (hslot : (c.credentialOf request).slot? = some slot)
  (hnew : (c.cache.historyFor slot).attempts = [])
include hc henabled hslot hnew

theorem Configured.asked_of_new : (c.turn w request s).1.queries ≠ [] := by
  refine hc.asked_of_old w henabled hslot ?_
  rw [History.mostRecent?_eq_none_iff.mpr hnew]
  intro earlier hearlier
  contradiction

/-- The first question about a slot is what a request within the age limit finds there. -/
theorem Configured.replayed?_after_new {start : Instant}
    (hyoung : start.since (w.now s).1 < c.maxAge) :
    (c.turn w request s).2.replayed? (c.credentialOf request) start =
      some (c.turn w request s).1.attempt := by
  let t := (c.turn w request s).1
  have hkept : History.trim (c.cache.historyFor slot).limit [t.attempt] = [t.attempt] := by
    apply History.trim_eq_self
    rw [List.length_singleton]
    omega
  have hrecent : ((c.cache.put slot t.attempt).historyFor slot).mostRecent? = some t.attempt := by
    rw [AttemptCache.historyFor_put, if_pos rfl, History.add, hnew, List.nil_append, hkept]
    rfl
  have hfound := replayed?_of_slot? (c := c.withCache (c.cache.put slot t.attempt)) henabled
    (hc.tidy.put slot t.attempt) hslot start
  obtain ⟨-, hput⟩ := hc.turn_of_asked w henabled ((slot?_turn w c request s).trans hslot)
    (hc.asked_of_new w henabled request s hslot hnew)
  rw [hput, hfound, Coordinator.withCache, hrecent, Option.filter_some,
    (turn_request w c request s).2.2]
  exact if_pos (decide_eq_true hyoung)

end

/-- All that a request can do to a coordinator. -/
theorem Configured.turn_cases (h : c.Configured settings salt) (request : Request) (s : σ) :
    (c.turn w request s).2 = c ∨ ∃ slot, c.Records (c.turn w request s).1 slot ∧
      (c.turn w request s).2 = c.withCache (c.cache.put slot (c.turn w request s).1.attempt) := by
  by_cases hasked : (c.turn w request s).1.queries = []
  · exact .inl (h.turn_of_not_asked w hasked)
  cases hreplayed : c.replayed? (c.credentialOf request) (w.now s).1 with
  | some earlier =>
    rw [turn_of_replayed w c request s hreplayed] at hasked
    contradiction
  | none =>
    cases henabled : c.cacheEnabled with
    | false =>
      rw [turn_of_not_replayed w c request s hreplayed, lookedUp_eq_self h.tidy]
      exact .inl (record_of_disabled henabled _)
    | true =>
      cases hslot : (c.turn w request s).1.slot? with
      | none =>
        rw [slot?_turn] at hslot
        rw [turn_of_not_replayed w c request s hreplayed, lookedUp_eq_self h.tidy]
        exact .inl (record_of_slot?_eq_none rfl hslot)
      | some slot => exact .inr ⟨slot, h.turn_of_asked w henabled hslot hasked⟩

/-- All that an operation can do to a coordinator. -/
theorem Configured.perform_cases (h : c.Configured settings salt) (s : σ) (operation : Operation) :
    (c.perform w s operation).2.1 = c ∨
    (∃ depth, (c.perform w s operation).2.1 = c.withCache (c.cache.setDepth depth)) ∨
    ∃ t slot, (c.perform w s operation).1 = .turn t ∧ c.Records t slot ∧
      (c.perform w s operation).2.1 = c.withCache (c.cache.put slot t.attempt) := by
  cases operation with
  | authenticate request =>
    rcases h.turn_cases w request s with hsame | ⟨slot, hrecords, hput⟩
    · exact .inl hsame
    · exact .inr (.inr ⟨_, slot, rfl, hrecords, hput⟩)
  | latest credential =>
    refine .inl ?_
    simp only [perform, h.tidy.mostRecent_eq]
    rfl
  | history credential => exact .inl rfl
  | count credential => exact .inl rfl
  | prune credential =>
    refine .inl ?_
    simp only [perform, h.tidy.prune_eq_self]
    rfl
  | pruneAll =>
    refine .inl ?_
    simp only [perform, h.tidy.pruneAll_eq_self]
    rfl
  | setDepth depth => exact .inr (.inl ⟨depth, rfl⟩)

theorem Configured.perform (h : c.Configured settings salt) (s : σ) (operation : Operation) :
    (c.perform w s operation).2.1.Configured settings salt := by
  rcases h.perform_cases w s operation with hc | ⟨depth, hc⟩ | ⟨t, slot, -, -, hc⟩
  · rw [hc]; exact h
  · rw [hc]; exact h.withCache (AttemptCache.tidy_setDepth _ _)
  · rw [hc]; exact h.withCache (h.tidy.put slot t.attempt)

theorem credential_of_mem_turns (hc : c.Configured settings salt) {operations : List Operation}
    {s : σ} {t : Turn σ} (ht : t ∈ turns w operations c s) : t.attempt.credential =
      some (.ofPassword t.request.username t.request.password salt) := by
  induction operations generalizing c s with
  | nil => contradiction
  | cons operation rest ih =>
    rw [turns_cons, List.mem_append] at ht
    rcases ht with ht | ht
    · cases operation with
      | authenticate request =>
        obtain ⟨hrequest, hcredential, -⟩ := turn_request w c request s
        rw [List.mem_singleton.mp ht]
        change (c.turn w request s).1.attempt.credential = some (.ofPassword
          (c.turn w request s).1.request.username (c.turn w request s).1.request.password salt)
        rw [hcredential, hrequest, ← hc.salt_eq]
      | _ => contradiction
    · exact ih (hc.perform w s operation) ht

theorem slot?_eq_some_iff_of_mem_turns (hc : c.Configured settings salt)
    {operations : List Operation} {s : σ} {t : Turn σ} (ht : t ∈ turns w operations c s)
    {name : String} {digest : Bytes} : t.slot? = some (name, digest) ↔
      name ≠ "" ∧ t.request.username = name ∧
        Password.digest? salt t.request.password = some digest := by
  rw [Turn.slot?, credential_of_mem_turns w hc ht]
  exact Credential.slot?_ofPassword_eq_some_iff

end Coordinator

end DirectoryAuth
