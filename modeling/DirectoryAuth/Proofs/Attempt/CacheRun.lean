import DirectoryAuth.Proofs.Attempt.Cache
import DirectoryAuth.Proofs.Attempt.HistoryRun
import DirectoryAuth.Proofs.Table
import Mathlib.Data.Finset.Card
import Mathlib.Data.List.DropRight

/-! A cache over whole runs. What is remembered under a key depends on the attempts added under that
key and on the depths that were set, and on nothing else that was done with the cache. -/
namespace DirectoryAuth

/-- The key that an attempt is remembered under, if its credential has one. -/
def Attempt.key? (a : Attempt) : Option String :=
  a.credential.bind fun credential => credential.cacheKey.toOption

namespace History

theorem capped_le (limit n : Nat) : capped limit n ≤ n := by
  unfold capped
  split
  · exact Nat.le_refl n
  · exact Nat.min_le_left n limit

/-- Trimming the last attempts of a list leaves its last attempts. -/
theorem trim_rtake (limit : Nat) {n : Nat} {all : List Attempt} (h : n ≤ all.length) :
    trim limit (all.rtake n) = all.rtake (capped limit n) := by
  unfold trim capped
  split
  · rfl
  · simp only [List.rtake, List.drop_drop, List.length_drop]
    congr 1
    omega

end History

namespace AttemptCache
open Credential (slotKey)
open History (capped)

/-- What can be done with a cache. -/
inductive Operation where
  | add (a : Attempt)
  | latest (credential : Credential)
  | history (credential : Credential)
  | count (credential : Credential)
  | prune (credential : Credential)
  | pruneAll
  | setDepth (depth : Nat)

namespace Operation

/-- The key that an operation is about, if it is about a single one. -/
def key? : Operation → Option String
  | add a => a.key?
  | latest credential | history credential | count credential | prune credential =>
    credential.cacheKey.toOption
  | pruneAll | setDepth _ => none

/-- The key that an operation adds an attempt under. -/
def addedKey? : Operation → Option String
  | add a => a.key?
  | _ => none

/-- The attempt that an operation adds under a key. -/
def added? (key : String) : Operation → Option Attempt
  | add a => if a.key? = some key then some a else none
  | _ => none

/-- The depth after an operation. -/
def depth (before : Nat) : Operation → Nat
  | setDepth after => after
  | _ => before

/-- How many attempts are kept under a key after an operation, of `n` that were kept before it. -/
def kept (key : String) (depth n : Nat) : Operation → Nat
  | add a => if a.key? = some key then capped depth (n + 1) else n
  | setDepth after => capped after n
  | _ => n

end Operation

/-- The cache that an operation leaves behind. -/
def perform (cache : AttemptCache) : Operation → AttemptCache
  | .add a => (cache.add a).toOption.getD cache
  | .latest credential => (cache.mostRecent credential).2
  | .history _ | .count _ => cache
  | .prune credential => cache.prune credential
  | .pruneAll => cache.pruneAll
  | .setDepth depth => cache.setDepth depth

def run (cache : AttemptCache) (operations : List Operation) : AttemptCache :=
  operations.foldl perform cache

/-- The keys that attempts are added under, one for each attempt. -/
def addedKeys (operations : List Operation) : List String := operations.filterMap (·.addedKey?)

/-- The attempts that are added under a key, in order. -/
def added (key : String) (operations : List Operation) : List Attempt :=
  operations.filterMap (·.added? key)

/-- How many attempts are kept under a key in the end, of `n` that were kept at first. -/
def kept (key : String) : (depth n : Nat) → List Operation → Nat
  | _, n, [] => n
  | depth, n, operation :: rest =>
    kept key (operation.depth depth) (operation.kept key depth n) rest

theorem added_cons (key : String) (operation : Operation) (rest : List Operation) :
    added key (operation :: rest) = (operation.added? key).toList ++ added key rest := by
  rw [added, List.filterMap_cons]
  cases operation.added? key <;> rfl

theorem perform_add (cache : AttemptCache) (a : Attempt) :
    cache.perform (.add a) = (cache.add a).toOption.getD cache := rfl

/-- All that adding an attempt can do. -/
theorem perform_add_cases (cache : AttemptCache) (a : Attempt) :
    (a.key? = none ∧ cache.perform (.add a) = cache) ∨
    ∃ slot, a.key? = some (slotKey slot) ∧ cache.perform (.add a) = cache.put slot a := by
  rw [perform_add, Attempt.key?]
  cases ha : a.credential with
  | none =>
    left
    rw [add_of_credential_eq_none cache ha]
    exact ⟨rfl, rfl⟩
  | some credential =>
    simp only [Option.bind_some, Credential.toOption_cacheKey]
    cases hslot : credential.slot? with
    | none =>
      left
      obtain ⟨e, he⟩ := add_of_slot?_eq_none cache ha hslot
      exact ⟨rfl, by rw [he]; rfl⟩
    | some slot =>
      right
      exact ⟨slot, rfl, by rw [add_of_slot? ha hslot]; rfl⟩

/-- Nothing else changes a cache in which no history exceeds its limit. -/
theorem Tidy.perform_eq_self {cache : AttemptCache} (h : cache.Tidy) {operation : Operation}
    (hadd : ∀ a, operation ≠ .add a) (hdepth : ∀ depth, operation ≠ .setDepth depth) :
    cache.perform operation = cache := by
  cases operation with
  | add a => exact absurd rfl (hadd a)
  | latest credential => rw [perform, h.mostRecent_eq]
  | history credential => rfl
  | count credential => rfl
  | prune credential => exact h.prune_eq_self credential
  | pruneAll => exact h.pruneAll_eq_self
  | setDepth depth => exact absurd rfl (hdepth depth)

theorem Tidy.depth_perform {cache : AttemptCache} (h : cache.Tidy) (operation : Operation) :
    (cache.perform operation).depth = operation.depth cache.depth := by
  cases operation with
  | add a =>
    rcases cache.perform_add_cases a with ⟨-, hsame⟩ | ⟨slot, -, hput⟩
    · rw [hsame]
      rfl
    · rw [hput]
      rfl
  | setDepth depth => rfl
  | _ =>
    rw [h.perform_eq_self (by simp) (by simp)]
    rfl

theorem Tidy.perform {cache : AttemptCache} (h : cache.Tidy) (operation : Operation) :
    (cache.perform operation).Tidy := by
  cases operation with
  | add a =>
    rcases cache.perform_add_cases a with ⟨-, hsame⟩ | ⟨slot, -, hput⟩
    · rwa [hsame]
    · rw [hput]
      exact h.put slot a
  | setDepth depth => exact tidy_setDepth cache depth
  | _ => rwa [h.perform_eq_self (by simp) (by simp)]

theorem Tidy.run {cache : AttemptCache} (h : cache.Tidy) (operations : List Operation) :
    (run cache operations).Tidy := by
  induction operations generalizing cache with
  | nil => exact h
  | cons operation rest ih => exact ih (h.perform operation)

theorem Tidy.attempts_perform_add {cache : AttemptCache} (h : cache.Tidy) (a : Attempt)
    {credential : Credential} {key : String} (hkey : credential.cacheKey = .ok key) :
    (cache.perform (.add a)).attempts credential =
      if a.key? = some key then History.trim cache.depth (cache.attempts credential ++ [a])
      else cache.attempts credential := by
  rcases cache.perform_add_cases a with ⟨hnone, hsame⟩ | ⟨slot, hsome, hput⟩
  · simp [hnone, hsame]
  · have hslot : credential.slot? = some slot ↔ slotKey slot = key :=
      Credential.slot?_eq_some_iff hkey
    simp [hput, h.attempts_put, hsome, hslot]

section
variable {cache : AttemptCache} (h : cache.Tidy) {credential : Credential} {key : String}
  (hkey : credential.cacheKey = .ok key) {all : List Attempt} {n : Nat} (hn : n ≤ all.length)
  (hall : cache.attempts credential = all.rtake n)
include h hkey hn hall

/-- One operation: if the last `n` of all attempts are remembered before it, the last ones are
remembered after it too, as many as it keeps. -/
theorem Tidy.attempts_perform (operation : Operation) :
    operation.kept key cache.depth n ≤ (all ++ (operation.added? key).toList).length ∧
      (cache.perform operation).attempts credential =
        (all ++ (operation.added? key).toList).rtake (operation.kept key cache.depth n) := by
  cases operation with
  | add a =>
    have hattempts := h.attempts_perform_add a hkey
    by_cases ha : a.key? = some key
    · have hlast : n + 1 ≤ (all ++ [a]).length := by simpa using hn
      rw [if_pos ha, hall, ← List.rtake_concat_succ, History.trim_rtake _ hlast] at hattempts
      have hle := History.capped_le cache.depth (n + 1)
      simpa [Operation.kept, Operation.added?, ha] using ⟨by omega, hattempts⟩
    · rw [if_neg ha, hall] at hattempts
      simpa [Operation.kept, Operation.added?, ha] using ⟨hn, hattempts⟩
  | setDepth depth =>
    have hattempts := cache.attempts_setDepth depth credential
    rw [hall, History.trim_rtake _ hn] at hattempts
    have hle := History.capped_le depth n
    simpa [Operation.kept, Operation.added?] using ⟨by omega, hattempts⟩
  | _ =>
    rw [h.perform_eq_self (by simp) (by simp)]
    simpa [Operation.kept, Operation.added?] using ⟨hn, hall⟩

/-- A whole run: how many attempts are remembered in the end is decided by what was added under the
key and by the depths, and they are the last ones. -/
theorem Tidy.attempts_run (operations : List Operation) :
    kept key cache.depth n operations ≤ (all ++ added key operations).length ∧
      (AttemptCache.run cache operations).attempts credential =
        (all ++ added key operations).rtake (kept key cache.depth n operations) := by
  induction operations generalizing cache all n with
  | nil => simpa [kept, added, AttemptCache.run] using ⟨hn, hall⟩
  | cons operation rest ih =>
    obtain ⟨hstepn, hstep⟩ := h.attempts_perform hkey hn hall operation
    have hrest := ih (h.perform operation) hstepn hstep
    rw [h.depth_perform, List.append_assoc, ← added_cons] at hrest
    exact hrest

end

theorem attempts_empty (depth : Nat) (credential : Credential) :
    ({ depth := depth } : AttemptCache).attempts credential = [] := by
  unfold attempts history?
  cases credential.cacheKey <;> rfl

theorem attempts_of_cacheKey_error {cache : AttemptCache} {credential : Credential}
    {e : CredentialError} (h : credential.cacheKey = .error e) :
    cache.attempts credential = [] := by
  rw [attempts, history?, h]
  rfl

/-- What is done about one key leaves the histories of the others alone. -/
theorem Tidy.history?_perform {cache : AttemptCache} (h : cache.Tidy) {operation : Operation}
    {key other : String} (hoperation : operation.key? = some key) {credential : Credential}
    (hkey : credential.cacheKey = .ok other) (hne : key ≠ other) :
    (cache.perform operation).history? credential = cache.history? credential := by
  cases operation with
  | add a =>
    rcases cache.perform_add_cases a with ⟨-, hsame⟩ | ⟨slot, hslot, hput⟩
    · rw [hsame]
    · have hkeys : slotKey slot = key := Option.some.inj (hslot.symm.trans hoperation)
      have hother : ¬other = slotKey slot := fun e => hne (hkeys.symm.trans e.symm)
      simp [hput, history?, hkey, Except.toOption, AttemptCache.put, hother]
  | setDepth depth => contradiction
  | _ => rw [h.perform_eq_self (by simp) (by simp)]

theorem Tidy.keys_perform {cache : AttemptCache} (h : cache.Tidy)
    (hnodup : cache.histories.keys.Nodup) (operation : Operation) :
    (cache.perform operation).histories.keys.Nodup ∧
      ∀ key, key ∈ (cache.perform operation).histories.keys ↔
        key ∈ cache.histories.keys ∨ operation.addedKey? = some key := by
  cases operation with
  | add a =>
    rcases cache.perform_add_cases a with ⟨hnone, hsame⟩ | ⟨slot, hsome, hput⟩
    · rw [hsame]
      simpa [Operation.addedKey?, hnone] using hnodup
    · rw [hput]
      refine ⟨Table.nodup_keys_set hnodup _ _, ?_⟩
      intro key
      simp [Operation.addedKey?, hsome, AttemptCache.put, Table.mem_keys_set, eq_comm]
  | setDepth depth =>
    simpa [AttemptCache.perform, AttemptCache.setDepth, Operation.addedKey?] using hnodup
  | _ =>
    rw [h.perform_eq_self (by simp) (by simp)]
    simpa [Operation.addedKey?] using hnodup

theorem Tidy.keys_run {cache : AttemptCache} (h : cache.Tidy)
    (hnodup : cache.histories.keys.Nodup) (operations : List Operation) :
    (AttemptCache.run cache operations).histories.keys.Nodup ∧
      ∀ key, key ∈ (AttemptCache.run cache operations).histories.keys ↔
        key ∈ cache.histories.keys ∨ key ∈ addedKeys operations := by
  induction operations generalizing cache with
  | nil => simpa [addedKeys, AttemptCache.run] using hnodup
  | cons operation rest ih =>
    obtain ⟨hstep, hmem⟩ := h.keys_perform hnodup operation
    obtain ⟨hrest, hmem'⟩ := ih (h.perform operation) hstep
    refine ⟨hrest, ?_⟩
    intro key
    have hkeys : key ∈ addedKeys (operation :: rest) ↔
        operation.addedKey? = some key ∨ key ∈ addedKeys rest := by
      simp [addedKeys, List.mem_filterMap]
    rw [hkeys, ← or_assoc, ← hmem key]
    exact hmem' key

/-- The size of a cache is the number of different keys that attempts were added under. -/
theorem size_run (depth : Nat) (operations : List Operation) :
    (run { depth := depth } operations).size = (addedKeys operations).toFinset.card := by
  obtain ⟨hnodup, hmem⟩ := (tidy_empty depth).keys_run List.nodup_nil operations
  rw [size, Table.size_eq_length_keys, ← List.toFinset_card_of_nodup hnodup]
  congr 1
  ext key
  simp [hmem]

/-- An attempt cannot be added exactly if its credential is missing or lacks what a key needs. -/
theorem exists_add_eq_error_iff (cache : AttemptCache) (a : Attempt) :
    (∃ e, cache.add a = .error e) ↔
      ∀ credential, a.credential = some credential →
        credential.username = "" ∨ credential.digest = none := by
  cases ha : a.credential with
  | none => simp [add_of_credential_eq_none cache ha]
  | some credential =>
    simp only [Option.some.injEq, forall_eq', ← Credential.slot?_eq_none_iff]
    cases hslot : credential.slot? with
    | none => simpa using add_of_slot?_eq_none cache ha hslot
    | some slot => simp [add_of_slot? ha hslot]

/-- A cache over a whole run, whatever is done with it and under however many keys. -/
theorem run_remembers_last_added (depth : Nat) (operations : List Operation) :
    let cache := run { depth := depth } operations
    (∀ credential key, credential.cacheKey = .ok key →
      cache.attempts credential = (added key operations).rtake (kept key depth 0 operations) ∧
      cache.count credential = kept key depth 0 operations) ∧
    (∀ credential e, credential.cacheKey = .error e → cache.attempts credential = []) ∧
    (∀ operation key other credential, operation.key? = some key →
      credential.cacheKey = .ok other → key ≠ other →
      (cache.perform operation).history? credential = cache.history? credential) ∧
    cache.size = (addedKeys operations).toFinset.card ∧
    (∀ a, (∃ e, cache.add a = .error e) ↔ ∀ credential, a.credential = some credential →
      credential.username = "" ∨ credential.digest = none) ∧
    (∀ a e, cache.add a = .error e → cache.perform (.add a) = cache) ∧
    (∀ credential, cache.prune credential = cache ∧ (cache.mostRecent credential).2 = cache) ∧
    cache.pruneAll = cache := by
  intro cache
  have htidy : cache.Tidy := (tidy_empty depth).run operations
  refine ⟨?_, ?_, ?_, size_run depth operations, cache.exists_add_eq_error_iff, ?_, ?_,
    htidy.pruneAll_eq_self⟩
  · intro credential key hkey
    have hstart : ({ depth := depth } : AttemptCache).attempts credential = [].rtake 0 := by
      simp [attempts_empty]
    obtain ⟨hle, hattempts⟩ :=
      (tidy_empty depth).attempts_run hkey (Nat.le_refl 0) hstart operations
    rw [List.nil_append] at hle hattempts
    refine ⟨hattempts, ?_⟩
    rw [count, hattempts, List.rtake, List.length_drop]
    exact Nat.sub_sub_self hle
  · intro credential e he
    exact attempts_of_cacheKey_error he
  · intro operation key other credential hoperation hkey hne
    exact htidy.history?_perform hoperation hkey hne
  · intro a e he
    rw [perform_add, he]
    rfl
  · intro credential
    refine ⟨htidy.prune_eq_self credential, ?_⟩
    rw [htidy.mostRecent_eq]

/-- A depth that is raised again brings nothing back. -/
example :
    let bob := Credential.ofDigest "bob" [1] (some [2])
    let attempt (message : String) : Attempt :=
      { credential := some bob, start := .epoch, message := message }
    (run {} [.setDepth 0, .add (attempt "a"), .add (attempt "b"), .setDepth 1, .setDepth 0,
      .add (attempt "c")]).attempts bob = [attempt "b", attempt "c"] := by
  decide

end AttemptCache
end DirectoryAuth
