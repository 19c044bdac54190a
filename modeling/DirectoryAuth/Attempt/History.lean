import DirectoryAuth.Attempt.Basic

/-! The most recent attempts with one credential, oldest first. A limit of zero is no limit. -/
namespace DirectoryAuth

/-- Attempts that are remembered for a credential unless told otherwise. -/
def defaultDepth : Nat := 10

structure History where
  limit : Nat := defaultDepth
  attempts : List Attempt := []

namespace History

/-- Drops the oldest attempts beyond a limit. -/
def trim (limit : Nat) (attempts : List Attempt) : List Attempt :=
  if limit = 0 then attempts else attempts.drop (attempts.length - limit)

theorem length_trim (limit : Nat) (attempts : List Attempt) :
    (trim limit attempts).length =
      if limit = 0 then attempts.length else min attempts.length limit := by
  rw [trim]
  split
  · rfl
  · rw [List.length_drop]
    omega

theorem trim_suffix (limit : Nat) (attempts : List Attempt) : trim limit attempts <:+ attempts := by
  rw [trim]
  split
  · exact List.suffix_rfl
  · exact List.drop_suffix ..

def count (h : History) : Nat := h.attempts.length

def prune (h : History) : History := { h with attempts := trim h.limit h.attempts }

def add (h : History) (a : Attempt) : History :=
  { h with attempts := trim h.limit (h.attempts ++ [a]) }

def setLimit (h : History) (limit : Nat) : History := { h with limit := limit }.prune

/-- The attempt that started later, the first of two that started together. -/
def later (a b : Attempt) : Attempt := if b.start.nanos ≤ a.start.nanos then a else b

/-- The attempt that started last; of those that started together, the one added first. -/
def mostRecent? (h : History) : Option Attempt :=
  match h.attempts with
  | [] => none
  | a :: rest => some (rest.foldl later a)

end History

end DirectoryAuth
