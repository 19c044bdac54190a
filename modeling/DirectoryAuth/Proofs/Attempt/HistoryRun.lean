import DirectoryAuth.Proofs.Attempt.History

/-! A history over whole runs. Eviction goes by the order of insertion and selection by the starts:
what is retained are the attempts added last, and where no attempt starts before one added earlier,
the one that is selected starts with the last of them. -/
namespace DirectoryAuth.History

/-- What a limit leaves of `n` attempts. -/
def capped (limit n : Nat) : Nat := if limit = 0 then n else min n limit

/-- What can be done with a history. -/
inductive Operation where
  | add (a : Attempt)
  | prune
  | setLimit (limit : Nat)

namespace Operation

/-- The attempt that an operation adds. -/
def added? : Operation → Option Attempt
  | add a => some a
  | prune | setLimit _ => none

/-- The limit after an operation. -/
def limit (before : Nat) : Operation → Nat
  | add _ | prune => before
  | setLimit after => after

/-- How many attempts are retained after an operation, of `n` that were retained before it. -/
def kept (limit n : Nat) : Operation → Nat
  | add _ => capped limit (n + 1)
  | prune => capped limit n
  | setLimit after => capped after n

end Operation

/-- The history that an operation leaves behind. -/
def perform (h : History) : Operation → History
  | .add a => h.add a
  | .prune => h.prune
  | .setLimit limit => h.setLimit limit

def run (h : History) (operations : List Operation) : History := operations.foldl perform h

/-- The attempts that are added, in order. -/
def added (operations : List Operation) : List Attempt := operations.filterMap (·.added?)

/-- How many attempts are retained in the end, of `n` that were retained at first. -/
def kept : (limit n : Nat) → List Operation → Nat
  | _, n, [] => n
  | limit, n, operation :: rest => kept (operation.limit limit) (operation.kept limit n) rest

theorem added_cons (operation : Operation) (rest : List Operation) :
    added (operation :: rest) = operation.added?.toList ++ added rest := by
  rw [added, List.filterMap_cons]
  cases operation.added? <;> rfl

/-- Every operation puts what it adds at the end and drops from the front what is over its limit. -/
theorem perform_eq (h : History) (operation : Operation) :
    h.perform operation = ⟨operation.limit h.limit,
      trim (operation.limit h.limit) (h.attempts ++ operation.added?.toList)⟩ := by
  cases operation with
  | add a => rfl
  | prune => simp [perform, prune, Operation.added?, Operation.limit]
  | setLimit limit => simp [perform, setLimit, prune, Operation.added?, Operation.limit]

theorem limit_perform (h : History) (operation : Operation) :
    (h.perform operation).limit = operation.limit h.limit := by
  rw [perform_eq]

theorem Operation.kept_eq (limit n : Nat) (operation : Operation) : operation.kept limit n =
    capped (operation.limit limit) (n + operation.added?.toList.length) := by
  cases operation <;> rfl

theorem count_perform (h : History) (operation : Operation) :
    (h.perform operation).count = operation.kept h.limit h.count := by
  rw [Operation.kept_eq, perform_eq, count, length_trim, List.length_append]
  rfl

/-- Nothing is retained but attempts that were there or have been added, and of these the last. -/
theorem suffix_run (h : History) (operations : List Operation) :
    (h.run operations).attempts <:+ h.attempts ++ added operations := by
  induction operations generalizing h with
  | nil => simp [run, added]
  | cons operation rest ih =>
    have hstep : (h.perform operation).attempts <:+ h.attempts ++ operation.added?.toList := by
      rw [perform_eq]
      exact trim_suffix ..
    obtain ⟨dropped, hdropped⟩ := hstep
    have hrest := (ih (h.perform operation)).trans (List.suffix_append dropped _)
    rwa [← List.append_assoc, hdropped, List.append_assoc, ← added_cons] at hrest

/-- How many attempts are retained is decided by the additions and the limits. -/
theorem count_run (h : History) (operations : List Operation) :
    (h.run operations).count = kept h.limit h.count operations := by
  induction operations generalizing h with
  | nil => rfl
  | cons operation rest ih =>
    change ((h.perform operation).run rest).count = _
    rw [ih, limit_perform, count_perform, kept]

/-- No operation lets go of the attempt that was added last. -/
theorem getLast?_run (h : History) (operations : List Operation) :
    (h.run operations).attempts.getLast? = (h.attempts ++ added operations).getLast? := by
  induction operations generalizing h with
  | nil => simp [run, added]
  | cons operation rest ih =>
    change ((h.perform operation).run rest).attempts.getLast? = _
    rw [ih, List.getLast?_append, perform_eq, getLast?_trim, ← List.getLast?_append,
      List.append_assoc, ← added_cons]

/-- A history over a whole run, whatever is added and however the limit changes: the attempts added
last are retained, in order, as many as the additions and the limits leave, and the most recent is
the latest of them. If no attempt starts before one added earlier, it starts with the last one. -/
theorem run_retains_last_added (limit : Nat) (operations : List Operation) :
    let h := run { limit := limit } operations
    h.attempts <:+ added operations ∧
    h.count = kept limit 0 operations ∧
    (∀ operation, (h.perform operation).count = operation.kept h.limit h.count) ∧
    (h.mostRecent? = none ↔ h.attempts = []) ∧
    (∀ a, h.mostRecent? = some a ↔ IsLatest h.attempts a) ∧
    (Spaced 0 (added operations) →
      h.mostRecent?.map (·.start) = (added operations).getLast?.map (·.start)) := by
  intro h
  have hsuffix : h.attempts <:+ added operations := suffix_run { limit := limit } operations
  refine ⟨hsuffix, count_run { limit := limit } operations, h.count_perform,
    mostRecent?_eq_none_iff, fun _ => mostRecent?_eq_some_iff, ?_⟩
  intro hspaced
  have hretained : Spaced 0 h.attempts := List.Pairwise.sublist hsuffix.sublist hspaced
  have hlast := getLast?_run { limit := limit } operations
  rw [hretained.start_mostRecent?, hlast, List.nil_append]

/-- A limit that is lifted, set to one and lifted again, and four starts of which two are equal. -/
theorem run_retains_last_added_resized :
    let attempt (start : Int) (message : String) : Attempt :=
      { credential := none, start := .ofNanos start, message := message }
    let operations : List Operation := [.add (attempt 1 "a"), .setLimit 0, .add (attempt 2 "b"),
      .add (attempt 3 "c"), .setLimit 1, .setLimit 0, .prune, .add (attempt 3 "d")]
    let h := run { limit := 1 } operations
    Spaced 0 (added operations) ∧ h.attempts <:+ added operations ∧ h.count = 2 ∧
      h.mostRecent? = some (attempt 3 "c") ∧
      h.mostRecent?.map (·.start) = (added operations).getLast?.map (·.start) := by
  intro attempt operations h
  have hspaced : Spaced 0 (added operations) := by decide
  obtain ⟨hsuffix, hcount, -, -, hsome, hstart⟩ := run_retains_last_added 1 operations
  refine ⟨hspaced, hsuffix, hcount, (hsome _).mpr ?_, hstart hspaced⟩
  exact ⟨[], [attempt 3 "d"], rfl, by decide, by decide⟩

end DirectoryAuth.History
