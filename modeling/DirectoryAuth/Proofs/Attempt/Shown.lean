import DirectoryAuth.Proofs.Attempt.Cache

/-! What attempts and their histories show apart from the credentials. Which attempt is the most
recent, what is trimmed and what stands in the log does not depend on a digest. -/
namespace DirectoryAuth
open Credential (Slot)

/-- An attempt without its credential. -/
def Attempt.shown (a : Attempt) : Attempt := { a with credential := none }

theorem Attempt.shown_eq_iff {a b : Attempt} : a.shown = b.shown ↔
    a.start = b.start ∧ a.status = b.status ∧ a.message = b.message ∧ a.finish = b.finish := by
  simp [shown]

/-- Attempts of one username that differ in the digest only have the same line in the log. -/
theorem Attempt.logEntry_eq {a b : Attempt} (hshown : a.shown = b.shown)
    (husername : a.username? = b.username?) : a.logEntry = b.logEntry := by
  obtain ⟨hstart, hstatus, hmessage, hfinish⟩ := shown_eq_iff.mp hshown
  simp only [logEntry, text, elapsedMillis, elapsed, hstart, hstatus, hmessage, hfinish, husername]

namespace History

/-- A history without credentials. -/
def shown (h : History) : History := { h with attempts := h.attempts.map Attempt.shown }

theorem shown_add (h : History) (a : Attempt) : (h.add a).shown = h.shown.add a.shown := by
  simp [shown, add, ← trim_map]

theorem later_shown (a b : Attempt) : later a.shown b.shown = (later a b).shown := by
  rw [later, later, apply_ite Attempt.shown]
  rfl

theorem foldl_later_shown (a : Attempt) (rest : List Attempt) :
    (rest.map Attempt.shown).foldl later a.shown = (rest.foldl later a).shown := by
  induction rest generalizing a with
  | nil => rfl
  | cons b rest ih => rw [List.map_cons, List.foldl_cons, List.foldl_cons, later_shown, ih]

/-- The most recent attempt is found by its start alone. -/
theorem mostRecent?_shown (h : History) :
    h.shown.mostRecent? = h.mostRecent?.map Attempt.shown := by
  obtain ⟨limit, attempts⟩ := h
  cases attempts with
  | nil => rfl
  | cons a rest => exact congrArg some (foldl_later_shown a rest)

end History

namespace AttemptCache

theorem historyFor_shown (cache : AttemptCache) {credential : Credential} {slot : Slot}
    (hs : credential.slot? = some slot) : (cache.historyFor slot).shown =
      ((cache.history? credential).map History.shown).getD { limit := cache.depth } := by
  rw [historyFor, history?_of_slot? hs]
  cases cache.histories.get? (Credential.slotKey slot) with
  | none => rfl
  | some history => rfl

theorem count_eq (cache : AttemptCache) (credential : Credential) : cache.count credential =
    (((cache.history? credential).map History.shown).map (·.count)).getD 0 := by
  rw [count, attempts]
  cases cache.history? credential with
  | none => rfl
  | some history => exact (List.length_map ..).symm

end AttemptCache

end DirectoryAuth
