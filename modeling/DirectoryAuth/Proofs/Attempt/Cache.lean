import DirectoryAuth.Attempt.Cache
import DirectoryAuth.Proofs.Attempt.History
import DirectoryAuth.Proofs.Credential.Slot
import DirectoryAuth.Proofs.Table

/-! What the operations of a cache do to the attempts that it remembers for each credential. Each
history carries a limit of its own, which stays the depth of the cache. -/
namespace DirectoryAuth.AttemptCache
open Credential (Slot slotKey)

/-- Every history has the limit that the cache has, and no attempts beyond it. -/
def Tidy (cache : AttemptCache) : Prop :=
  ∀ e ∈ cache.histories.entries,
    e.2.limit = cache.depth ∧ History.trim cache.depth e.2.attempts = e.2.attempts

/-- In every history each attempt starts at least `gap` nanoseconds after those before it. -/
def Spaced (gap : Int) (cache : AttemptCache) : Prop :=
  ∀ e ∈ cache.histories.entries, History.Spaced gap e.2.attempts

theorem tidy_empty (depth : Nat) : Tidy { depth := depth } := by
  intro e he
  contradiction

/-- The history that an attempt with a slot is added to. -/
def historyFor (cache : AttemptCache) (slot : Slot) : History :=
  (cache.histories.get? (slotKey slot)).getD { limit := cache.depth }

theorem history?_eq (cache : AttemptCache) (credential : Credential) :
    cache.history? credential =
      credential.slot?.bind fun slot => cache.histories.get? (slotKey slot) := by
  rw [history?, Credential.toOption_cacheKey]
  cases credential.slot? <;> rfl

theorem history?_of_slot? {cache : AttemptCache} {credential : Credential} {slot : Slot}
    (h : credential.slot? = some slot) :
    cache.history? credential = cache.histories.get? (slotKey slot) := by
  rw [history?_eq, h]
  rfl

theorem attempts_of_slot? {cache : AttemptCache} {credential : Credential} {slot : Slot}
    (h : credential.slot? = some slot) :
    cache.attempts credential = (cache.historyFor slot).attempts := by
  rw [attempts, history?_of_slot? h, historyFor]
  cases cache.histories.get? (slotKey slot) <;> rfl

theorem attempts_of_slot?_eq_none {cache : AttemptCache} {credential : Credential}
    (h : credential.slot? = none) : cache.attempts credential = [] := by
  rw [attempts, history?_eq, h]
  rfl

theorem historyFor_eq_or (cache : AttemptCache) (slot : Slot) :
    (slotKey slot, cache.historyFor slot) ∈ cache.histories.entries ∨
      cache.historyFor slot = { limit := cache.depth } := by
  rw [historyFor]
  cases hget : cache.histories.get? (slotKey slot) with
  | none => exact .inr rfl
  | some history => exact .inl (Table.mem_of_get? hget)

theorem Tidy.historyFor {cache : AttemptCache} (h : cache.Tidy) (slot : Slot) :
    (cache.historyFor slot).limit = cache.depth ∧
      History.trim cache.depth (cache.historyFor slot).attempts =
        (cache.historyFor slot).attempts := by
  rcases cache.historyFor_eq_or slot with hmem | hnew
  · exact h _ hmem
  · rw [hnew]
    exact ⟨rfl, History.trim_eq_self (.inr (Nat.zero_le _))⟩

theorem Spaced.historyFor {gap : Int} {cache : AttemptCache} (h : cache.Spaced gap) (slot : Slot) :
    History.Spaced gap (cache.historyFor slot).attempts := by
  rcases cache.historyFor_eq_or slot with hmem | hnew
  · exact h _ hmem
  · rw [hnew]
    exact List.Pairwise.nil

/-- The cache after an attempt has been added under a slot. -/
def put (cache : AttemptCache) (slot : Slot) (a : Attempt) : AttemptCache :=
  { cache with histories := cache.histories.set (slotKey slot) ((cache.historyFor slot).add a) }

theorem add_of_slot? {cache : AttemptCache} {a : Attempt} {credential : Credential} {slot : Slot}
    (ha : a.credential = some credential) (hs : credential.slot? = some slot) :
    cache.add a = .ok (cache.put slot a) := by
  rw [add, ha]
  change (credential.cacheKey >>= _) = _
  rw [Credential.cacheKey_of_slot? hs]
  rfl

theorem add_of_slot?_eq_none (cache : AttemptCache) {a : Attempt} {credential : Credential}
    (ha : a.credential = some credential) (hs : credential.slot? = none) :
    ∃ e, cache.add a = .error e := by
  obtain ⟨e, he⟩ := Credential.cacheKey_of_slot?_eq_none hs
  refine ⟨e, ?_⟩
  rw [add, ha]
  change (credential.cacheKey >>= _) = _
  rw [he]
  rfl

theorem add_of_credential_eq_none (cache : AttemptCache) {a : Attempt}
    (ha : a.credential = none) : cache.add a = .error .missingCredential := by
  rw [add, ha]
  rfl

theorem Tidy.put {cache : AttemptCache} (h : cache.Tidy) (slot : Slot) (a : Attempt) :
    (cache.put slot a).Tidy := by
  intro e he
  rcases Table.mem_set he with rfl | he
  · obtain ⟨hlimit, -⟩ := h.historyFor slot
    refine ⟨hlimit, ?_⟩
    change History.trim cache.depth (History.trim (cache.historyFor slot).limit _) =
      History.trim (cache.historyFor slot).limit _
    rw [hlimit, History.trim_trim]
  · exact h e he

theorem Spaced.put {gap : Int} {cache : AttemptCache} {slot : Slot} {a : Attempt}
    (h : cache.Spaced gap)
    (ha : ∀ earlier, (cache.historyFor slot).mostRecent? = some earlier →
      gap ≤ a.start.since earlier.start) : (cache.put slot a).Spaced gap := by
  intro e he
  rcases Table.mem_set he with rfl | he
  · exact ((h.historyFor slot).append_of_mostRecent? ha).trim _
  · exact h e he

/-- Adding an attempt concerns the history of its own slot only. -/
theorem historyFor_put (cache : AttemptCache) (slot : Slot) (a : Attempt) (other : Slot) :
    (cache.put slot a).historyFor other =
      if other = slot then (cache.historyFor slot).add a else cache.historyFor other := by
  simp only [AttemptCache.put, AttemptCache.historyFor, Table.get?_set]
  by_cases hslot : other = slot
  · rw [if_pos hslot, if_pos (congrArg slotKey hslot)]
    rfl
  · rw [if_neg hslot, if_neg fun e => hslot (Credential.slotKey_injective e)]

theorem history?_put (cache : AttemptCache) (slot : Slot) (a : Attempt) (credential : Credential) :
    (cache.put slot a).history? credential =
      if credential.slot? = some slot then some ((cache.historyFor slot).add a)
      else cache.history? credential := by
  rw [history?_eq, history?_eq]
  cases hs : credential.slot? with
  | none => rfl
  | some other =>
    change (cache.histories.set _ _).get? _ = _
    rw [Table.get?_set]
    by_cases hslot : other = slot
    · rw [if_pos (congrArg Credential.slotKey hslot), if_pos (congrArg some hslot)]
    · rw [if_neg fun e => hslot (Credential.slotKey_injective e),
        if_neg fun e => hslot (Option.some.inj e)]
      rfl

theorem size_put (cache : AttemptCache) {slot : Slot} (a : Attempt) {credential : Credential}
    (hs : credential.slot? = some slot) : (cache.put slot a).size =
      if (cache.history? credential).isSome then cache.size else cache.size + 1 := by
  rw [history?_of_slot? hs]
  exact Table.size_set ..

/-- A history holds what it held before, or the attempt that has been added to it. -/
theorem mem_historyFor_put {cache : AttemptCache} {slot other : Slot} {a x : Attempt}
    (hx : x ∈ ((cache.put slot a).historyFor other).attempts) :
    x ∈ (cache.historyFor other).attempts ∨ other = slot ∧ x = a := by
  rw [historyFor_put] at hx
  split at hx
  · next hslot =>
    rcases History.mem_of_mem_add hx with hold | hnew
    · exact .inl (hslot ▸ hold)
    · exact .inr ⟨hslot, hnew⟩
  · exact .inl hx

theorem Tidy.attempts_put {cache : AttemptCache} (h : cache.Tidy) (slot : Slot) (a : Attempt)
    (credential : Credential) : (cache.put slot a).attempts credential =
      if credential.slot? = some slot
      then History.trim cache.depth (cache.attempts credential ++ [a])
      else cache.attempts credential := by
  cases hs : credential.slot? with
  | none => rw [attempts_of_slot?_eq_none hs, attempts_of_slot?_eq_none hs]; simp
  | some other =>
    rw [attempts_of_slot? hs, attempts_of_slot? hs, historyFor_put]
    by_cases hslot : other = slot
    · rw [if_pos hslot, if_pos (congrArg some hslot), hslot, History.add, (h.historyFor slot).1]
    · rw [if_neg hslot, if_neg fun e => hslot (Option.some.inj e)]

theorem Tidy.prune_eq_self {cache : AttemptCache} (h : cache.Tidy) (credential : Credential) :
    cache.prune credential = cache := by
  rw [prune]
  split
  · next key _ =>
    split
    · next history hget =>
      obtain ⟨hlimit, htrim⟩ := h _ (Table.mem_of_get? hget)
      have hself : history.prune = history := by
        obtain ⟨limit, attempts⟩ := history
        change limit = cache.depth at hlimit
        rw [History.prune, hlimit]
        exact congrArg (History.mk cache.depth) htrim
      rw [hself, Table.set_eq_self hget]
    · rfl
  · rfl

theorem Tidy.pruneAll_eq_self {cache : AttemptCache} (h : cache.Tidy) : cache.pruneAll = cache := by
  have hentries : cache.histories.entries.map (fun e => (e.1, e.2.prune)) =
      cache.histories.entries := by
    refine (List.map_congr_left ?_).trans (List.map_id _)
    intro e he
    obtain ⟨hlimit, htrim⟩ := h e he
    obtain ⟨key, limit, attempts⟩ := e
    change limit = cache.depth at hlimit
    rw [History.prune, hlimit]
    exact congrArg (fun kept => (key, History.mk cache.depth kept)) htrim
  change ({ cache with histories := ⟨_⟩ } : AttemptCache) = cache
  rw [hentries]

theorem Tidy.mostRecent_eq {cache : AttemptCache} (h : cache.Tidy) (credential : Credential) :
    cache.mostRecent credential =
      ((cache.history? credential).bind (·.mostRecent?), cache) := by
  rw [mostRecent, h.prune_eq_self]

/-- Where starts ascend, the latest attempt is the last one that was added. -/
theorem Spaced.mostRecent?_eq_getLast? {gap : Int} {cache : AttemptCache} (h : cache.Spaced gap)
    (hgap : 0 < gap) (credential : Credential) :
    (cache.history? credential).bind (·.mostRecent?) = (cache.attempts credential).getLast? := by
  rw [attempts]
  cases hh : cache.history? credential with
  | none => rfl
  | some history =>
    cases hs : credential.slot? with
    | none => rw [history?_eq, hs] at hh; contradiction
    | some slot =>
      rw [history?_of_slot? hs] at hh
      exact (h _ (Table.mem_of_get? hh)).mostRecent?_eq_getLast? hgap

theorem tidy_setDepth (cache : AttemptCache) (depth : Nat) : (cache.setDepth depth).Tidy := by
  intro e he
  obtain ⟨old, -, rfl⟩ := List.mem_map.mp he
  exact ⟨rfl, History.trim_trim ..⟩

theorem Spaced.setDepth {gap : Int} {cache : AttemptCache} (h : cache.Spaced gap) (depth : Nat) :
    (cache.setDepth depth).Spaced gap := by
  intro e he
  obtain ⟨old, hold, rfl⟩ := List.mem_map.mp he
  exact (h old hold).trim depth

theorem historyFor_setDepth (cache : AttemptCache) (depth : Nat) (slot : Slot) :
    (cache.setDepth depth).historyFor slot = (cache.historyFor slot).setLimit depth := by
  simp only [setDepth, AttemptCache.historyFor, Table.get?_map]
  cases cache.histories.get? (slotKey slot) with
  | none =>
    have hnil : History.trim depth [] = [] := History.trim_eq_self (.inr (Nat.zero_le _))
    exact (congrArg (History.mk depth) hnil).symm
  | some history => rfl

theorem mem_historyFor_setDepth {cache : AttemptCache} {depth : Nat} {slot : Slot} {x : Attempt}
    (hx : x ∈ ((cache.setDepth depth).historyFor slot).attempts) :
    x ∈ (cache.historyFor slot).attempts := by
  rw [historyFor_setDepth] at hx
  exact History.mem_of_mem_trim hx

theorem attempts_setDepth (cache : AttemptCache) (depth : Nat) (credential : Credential) :
    (cache.setDepth depth).attempts credential =
      History.trim depth (cache.attempts credential) := by
  cases hs : credential.slot? with
  | none =>
    rw [attempts_of_slot?_eq_none hs, attempts_of_slot?_eq_none hs]
    exact (History.trim_eq_self (.inr (Nat.zero_le _))).symm
  | some slot =>
    rw [attempts_of_slot? hs, attempts_of_slot? hs, historyFor_setDepth]
    rfl

end DirectoryAuth.AttemptCache
