/-! Reading Punycode, the ASCII form of the labels of international domain names. -/
namespace DirectoryAuth.Url.Punycode

def digitValue? (c : Char) : Option Nat :=
  if 'a' ≤ c ∧ c ≤ 'z' then some (c.toNat - 97)
  else if 'A' ≤ c ∧ c ≤ 'Z' then some (c.toNat - 65)
  else if '0' ≤ c ∧ c ≤ '9' then some (c.toNat - 22)
  else none

def threshold (bias k : Nat) : Nat := min 26 (max 1 (k - bias))

/-- How often a distance is divided by 35 before it is small, and what is left of it. -/
def shrink (steps delta : Nat) : Nat × Nat :=
  if 455 < delta then shrink (steps + 1) (delta / 35) else (steps, delta)
termination_by delta
decreasing_by omega

/-- The bias after a distance, for a text of `size` characters. -/
def adapt (delta size : Nat) (isFirst : Bool) : Nat :=
  let delta := if isFirst then delta / 700 else delta / 2
  let (steps, rest) := shrink 0 (delta + delta / size)
  36 * steps + 36 * rest / (rest + 38)

/-- Distances and weights stay below this bound. -/
def bound : Nat := 4294967296

/-- Adds the distance that the next digits write to `sum`. -/
def readDelta (bias k weight sum : Nat) : List Char → Option (Nat × List Char)
  | [] => none
  | c :: rest => do
    let digit ← digitValue? c
    let sum := sum + digit * weight
    let next := weight * (36 - threshold bias k)
    if bound ≤ sum then none
    else if digit < threshold bias k then pure (sum, rest)
    else if bound ≤ next then none
    else readDelta bias (k + 36) next sum rest

theorem length_of_readDelta {bias k weight sum n : Nat} {cs rest : List Char}
    (h : readDelta bias k weight sum cs = some (n, rest)) : rest.length < cs.length := by
  induction cs generalizing k weight sum with
  | nil => simp [readDelta] at h
  | cons c more ih =>
    rw [readDelta] at h
    cases hd : digitValue? c with
    | none => simp [hd] at h
    | some digit =>
      simp only [hd, Option.bind_eq_bind, Option.bind_some] at h
      split at h
      · simp at h
      · split at h
        · obtain ⟨-, rfl⟩ := Prod.mk.inj (Option.some.inj h)
          simp
        · split at h
          · simp at h
          · have := ih h
            simp only [List.length_cons]
            omega

/-- Inserts code points, from `code` at `place` on, as the digits tell. -/
def insertCodes (code place bias : Nat) (out : List Nat) (cs : List Char) : Option (List Nat) :=
  if cs = [] then some out
  else
    match _h : readDelta bias 36 1 place cs with
    | none => none
    | some (sum, rest) =>
      let size := out.length + 1
      let next := code + sum / size
      if next.isValidChar then
        insertCodes next (sum % size + 1) (adapt (sum - place) size (place == 0))
          (out.insertIdx (sum % size) next) rest
      else none
termination_by cs.length
decreasing_by exact length_of_readDelta _h

/-- The characters of a label written after `xn--`. The basic ones stand before the last hyphen,
unless there are none, in which case all is digits. -/
def decode? (label : List Char) : Option (List Char) :=
  let digits := (label.reverse.takeWhile (· != '-')).reverse
  let basic := (label.take (label.length - digits.length)).dropLast
  (insertCodes 128 0 72 (basic.map Char.toNat) (if basic = [] then label else digits)).map
    fun codes => codes.map Char.ofNat

end DirectoryAuth.Url.Punycode
