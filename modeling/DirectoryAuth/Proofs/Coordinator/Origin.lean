import DirectoryAuth.Proofs.Coordinator.Recall

/-! Where a repeated attempt comes from. Every attempt in the cache is the attempt of an earlier
request that asked the directory about the same username with the same digest. -/
namespace DirectoryAuth.Coordinator
open Credential (Slot)

variable {σ : Type} {settings : CacheSettings} {salt : Bytes} {c : Coordinator}

/-- A request that asked the directory about a slot. -/
structure Asked (b : Turn σ) (slot : Slot) : Prop where
  queries_ne_nil : b.queries ≠ []
  slot?_eq : b.slot? = some slot

/-- What is remembered under a slot are attempts of past requests that asked about it. -/
def Remembers (c : Coordinator) (past : List (Turn σ)) : Prop :=
  ∀ slot, ∀ a ∈ (c.cache.historyFor slot).attempts, ∃ b ∈ past, Asked b slot ∧ b.attempt = a

theorem remembers_ofSettings (settings : CacheSettings) (salt : Bytes) :
    (ofSettings settings salt).Remembers ([] : List (Turn σ)) := by
  intro slot a ha
  contradiction

theorem Remembers.append {past : List (Turn σ)} (h : c.Remembers past) (more : List (Turn σ)) :
    c.Remembers (past ++ more) := by
  intro slot a ha
  obtain ⟨b, hb, hrest⟩ := h slot a ha
  exact ⟨b, List.mem_append_left _ hb, hrest⟩

/-- An operation adds to the cache at most the attempt of the request that it serves. -/
theorem Remembers.perform (hc : c.Configured settings salt) {past : List (Turn σ)}
    (h : c.Remembers past) (w : World σ) (s : σ) (operation : Operation) :
    (c.perform w s operation).2.1.Remembers
      (past ++ (c.perform w s operation).1.turn?.toList) := by
  rcases hc.perform_cases w s operation with he | ⟨depth, he⟩ | ⟨t, slot, hanswer, hrecords, he⟩
  · rw [he]
    exact h.append _
  · rw [he]
    intro slot a ha
    exact h.append _ slot a (AttemptCache.mem_historyFor_setDepth ha)
  · rw [he, hanswer]
    intro other a ha
    rcases AttemptCache.mem_historyFor_put ha with hold | ⟨rfl, rfl⟩
    · exact h.append _ other a hold
    · refine ⟨t, List.mem_append_right _ (List.mem_singleton_self t), ?_, rfl⟩
      exact ⟨hrecords.asked, hrecords.slot?_eq⟩

/-- A remembered attempt is repeated only for credentials with the slot of its own one. -/
theorem Remembers.slot?_of_replayed? {past : List (Turn σ)} (h : c.Remembers past)
    (hc : c.Configured settings salt) {credential : Credential} {start : Instant}
    {earlier : Attempt} (hreplayed : c.replayed? credential start = some earlier) :
    ∃ slot, credential.slot? = some slot ∧ earlier.credential.bind (·.slot?) = some slot := by
  obtain ⟨-, slot, hslot, hmem, -⟩ := hc.mem_of_replayed? hreplayed
  obtain ⟨b, -, hasked, rfl⟩ := h slot earlier hmem
  exact ⟨slot, hslot, hasked.slot?_eq⟩

/-- Every coordinator of a run remembers attempts of requests, and nothing else. -/
theorem remembers_of_mem_run {w : World σ} {operations : List Operation} {s : σ} {step : Step σ}
    (h : step ∈ run w operations (ofSettings settings salt) s) :
    step.before.Configured settings salt ∧ ∃ past : List (Turn σ), step.before.Remembers past :=
  (of_mem_run (P := fun c => c.Configured settings salt ∧ ∃ past : List (Turn σ), c.Remembers past)
    (fun _ s operation ⟨hc, _, hpast⟩ =>
      ⟨hc.perform w s operation, _, hpast.perform hc w s operation⟩)
    ⟨configured_ofSettings settings salt, [], remembers_ofSettings settings salt⟩ h).1

/-- A request repeats another one if it has its outcome, for the same slot and within the age
limit. -/
structure Repeats (settings : CacheSettings) (t b : Turn σ) : Prop where
  enabled : settings.enabled = true
  slot : ∃ slot, Asked b slot ∧ t.slot? = some slot
  status_eq : t.attempt.status = b.attempt.status
  since_lt : t.attempt.start.since b.attempt.start < settings.maxAge

variable (w : World σ)

/-- A request asks the directory or repeats a past request that did. -/
theorem Remembers.asks_or_repeats (hc : c.Configured settings salt) {past : List (Turn σ)}
    (h : c.Remembers past) (request : Request) (s : σ) :
    (c.turn w request s).1.queries ≠ [] ∨
      ∃ b ∈ past, Repeats settings (c.turn w request s).1 b := by
  cases hreplayed : c.replayed? (c.credentialOf request) (w.now s).1 with
  | none =>
    rw [turn_of_not_replayed w c request s hreplayed]
    exact .inl (List.cons_ne_nil _ _)
  | some earlier =>
    obtain ⟨henabled, slot, hslot, hmem, hyoung⟩ := hc.mem_of_replayed? hreplayed
    obtain ⟨b, hb, hasked, hattempt⟩ := h slot earlier hmem
    refine .inr ⟨b, hb, henabled, ⟨slot, hasked, (slot?_turn w c request s).trans hslot⟩, ?_, ?_⟩
    · rw [turn_of_replayed w c request s hreplayed, hattempt]
    · rw [(turn_request w c request s).2.2, hattempt]
      exact hyoung

theorem Remembers.origin (hc : c.Configured settings salt) {past : List (Turn σ)}
    (h : c.Remembers past) {operations : List Operation} {s : σ} {i : Nat} {t : Turn σ}
    (ht : (past ++ turns w operations c s)[i]? = some t) (hi : past.length ≤ i) :
    t.queries ≠ [] ∨ ∃ j b, j < i ∧ (past ++ turns w operations c s)[j]? = some b ∧
      Repeats settings t b := by
  induction operations generalizing c s past with
  | nil =>
    change (past ++ [])[i]? = some t at ht
    rw [List.append_nil, List.getElem?_eq_none hi] at ht
    contradiction
  | cons operation rest ih =>
    have hnext := h.perform hc w s operation
    rw [turns_cons, ← List.append_assoc] at ht ⊢
    by_cases hlater : (past ++ (c.perform w s operation).1.turn?.toList).length ≤ i
    · exact ih (hc.perform w s operation) hnext ht hlater
    -- what is left is the request that the operation serves
    rw [List.length_append] at hlater
    cases operation with
    | authenticate request =>
      change ¬ past.length + 1 ≤ i at hlater
      obtain rfl : i = past.length := by omega
      change (past ++ [(c.turn w request s).1] ++ _)[past.length]? = some t at ht
      rw [List.getElem?_append_left (by simp), List.getElem?_concat_length] at ht
      rw [← Option.some.inj ht]
      refine (h.asks_or_repeats w hc request s).imp_right ?_
      rintro ⟨b, hb, hrepeats⟩
      obtain ⟨j, hj, rfl⟩ := List.getElem_of_mem hb
      refine ⟨j, past[j], hj, ?_, hrepeats⟩
      rw [List.append_assoc, List.getElem?_append_left hj, List.getElem?_eq_getElem hj]
    | _ => exact absurd hi hlater

/-- In a run, a request asks the directory or repeats an earlier request that did. -/
theorem origin_of_getElem? {operations : List Operation} {s : σ} {i : Nat} {t : Turn σ}
    (ht : (turns w operations (ofSettings settings salt) s)[i]? = some t) :
    t.queries ≠ [] ∨ ∃ j b, j < i ∧
      (turns w operations (ofSettings settings salt) s)[j]? = some b ∧ Repeats settings t b := by
  have hempty : (ofSettings settings salt).Remembers ([] : List (Turn σ)) :=
    remembers_ofSettings settings salt
  exact hempty.origin w (configured_ofSettings settings salt) ht (Nat.zero_le i)

end DirectoryAuth.Coordinator
