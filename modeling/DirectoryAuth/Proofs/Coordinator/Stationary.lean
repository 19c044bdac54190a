import DirectoryAuth.Directory.Memory
import DirectoryAuth.Proofs.Coordinator.Memo
import Mathlib.Data.List.Forall2

/-! The cache in front of a directory that does not change its mind. As long as requests with one
digest have one answer, no status tells whether there is a cache; only messages do. -/
namespace DirectoryAuth
open Credential (Slot)

variable {σ τ : Type}

/-- While the invariant holds, the directory answers by a fixed function; clock and directory keep
the invariant. -/
structure World.Stationary (w : World σ) (Inv : σ → Prop)
    (verdict : Request → Except DirectoryError Bool) : Prop where
  now : ∀ s, Inv s → Inv (w.now s).2
  verify : ∀ username password s, Inv s → Inv (w.verify username password s).2
  answer : ∀ request s, Inv s →
    (w.verify request.username request.password s).1 = verdict request

/-- The request that an operation makes. -/
def Operation.request? : Operation → Option Request
  | authenticate request => some request
  | _ => none

namespace Coordinator

variable {w : World σ} {Inv : σ → Prop} {verdict : Request → Except DirectoryError Bool}
  {settings : CacheSettings} {salt : Bytes} {c : Coordinator} {request : Request} {s : σ}

/-- A question is answered by the verdict on its request. -/
theorem outcome_of_asked (hw : w.Stationary Inv verdict) (hs : Inv s) (c : Coordinator)
    (hasked : (c.turn w request s).1.queries ≠ []) :
    (c.turn w request s).1.attempt.status = (outcome (verdict request)).1 ∧
      (c.turn w request s).1.attempt.message = (outcome (verdict request)).2 := by
  cases hreplayed : c.replayed? (c.credentialOf request) (w.now s).1 with
  | some earlier =>
    rw [turn_of_replayed w c request s hreplayed] at hasked
    contradiction
  | none =>
    rw [turn_of_not_replayed w c request s hreplayed]
    simp [hw.answer request _ (hw.now s hs)]

/-- Every attempt that is remembered tells the verdict on a request for its slot. -/
def Vouched (verdict : Request → Except DirectoryError Bool) (requests : List Request)
    (c : Coordinator) : Prop :=
  ∀ slot, ∀ a ∈ (c.cache.historyFor slot).attempts, ∃ r ∈ requests,
    (c.credentialOf r).slot? = some slot ∧ a.status = (outcome (verdict r)).1 ∧
      a.message = (outcome (verdict r)).2

theorem Vouched.turn {requests : List Request} (h : c.Vouched verdict requests)
    (hw : w.Stationary Inv verdict) (hs : Inv s) (hc : c.Configured settings salt)
    (hrequest : request ∈ requests) : (c.turn w request s).2.Vouched verdict requests := by
  rcases hc.turn_cases w request s with hsame | ⟨slot, hrecords, hput⟩
  · rw [hsame]
    exact h
  · rw [hput]
    intro other a ha
    rcases AttemptCache.mem_historyFor_put ha with hold | ⟨rfl, rfl⟩
    · exact h other a hold
    · have hslot := hrecords.slot?_eq
      rw [slot?_turn] at hslot
      exact ⟨request, hrequest, hslot, outcome_of_asked hw hs c hrecords.asked⟩

theorem Vouched.perform {requests : List Request} (h : c.Vouched verdict requests)
    (hc : c.Configured settings salt) (w : World σ) (s : σ) {operation : Operation}
    (hnone : operation.request? = none) :
    (c.perform w s operation).2.1.Vouched verdict requests := by
  rcases hc.perform_cases w s operation with he | ⟨depth, he⟩ | ⟨t, slot, hanswer, -, -⟩
  · rw [he]
    exact h
  · rw [he]
    intro slot a ha
    exact h slot a (AttemptCache.mem_historyFor_setDepth ha)
  · cases operation <;> contradiction

variable {w' : World τ} {Inv' : τ → Prop} {off : CacheSettings} {salt' : Bytes}
  {requests : List Request}

end Coordinator

end DirectoryAuth
