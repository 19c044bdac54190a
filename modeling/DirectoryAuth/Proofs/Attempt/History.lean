import DirectoryAuth.Attempt.History

/-! The newest attempt of a history. Trimming never drops the attempt added last, and where the
attempts start one after another it is also the one that started last. -/
namespace DirectoryAuth.History

/-- The attempt of a list that started last, the first of those that started together. -/
def IsLatest (attempts : List Attempt) (a : Attempt) : Prop :=
  ∃ before after, attempts = before ++ a :: after ∧
    (∀ x ∈ before, x.start.nanos < a.start.nanos) ∧ ∀ x ∈ after, x.start.nanos ≤ a.start.nanos

theorem isLatest_singleton (a : Attempt) : IsLatest [a] a := ⟨[], [], rfl, by simp, by simp⟩

theorem IsLatest.mem {attempts : List Attempt} {a : Attempt} (h : IsLatest attempts a) :
    a ∈ attempts := by
  obtain ⟨before, after, rfl, -, -⟩ := h
  simp

theorem IsLatest.start_le {attempts : List Attempt} {a x : Attempt} (h : IsLatest attempts a)
    (hx : x ∈ attempts) : x.start.nanos ≤ a.start.nanos := by
  obtain ⟨before, after, rfl, hbefore, hafter⟩ := h
  rcases List.mem_append.mp hx with hx | hx
  · exact Int.le_of_lt (hbefore x hx)
  · rcases List.mem_cons.mp hx with rfl | hx
    · exact Int.le_refl _
    · exact hafter x hx

/-- What the scan holds is the latest of the attempts that it has passed. -/
theorem IsLatest.later {passed : List Attempt} {a : Attempt} (h : IsLatest passed a) (b : Attempt) :
    IsLatest (passed ++ [b]) (later a b) := by
  rw [History.later]
  split
  · next hle =>
    obtain ⟨before, after, rfl, hbefore, hafter⟩ := h
    refine ⟨before, after ++ [b], by simp, hbefore, ?_⟩
    intro x hx
    rcases List.mem_append.mp hx with hx | hx
    · exact hafter x hx
    · rwa [List.mem_singleton.mp hx]
  · next hlt =>
    refine ⟨passed, [], rfl, ?_, by simp⟩
    intro x hx
    exact Int.lt_of_le_of_lt (h.start_le hx) (Int.not_le.mp hlt)

theorem IsLatest.foldl_later {passed : List Attempt} {a : Attempt} (h : IsLatest passed a)
    (rest : List Attempt) : IsLatest (passed ++ rest) (rest.foldl History.later a) := by
  induction rest generalizing passed a with
  | nil => rwa [List.append_nil]
  | cons b rest ih =>
    have hrest := ih (h.later b)
    rwa [List.append_assoc] at hrest

theorem isLatest_of_mostRecent? {h : History} {a : Attempt} (ha : h.mostRecent? = some a) :
    IsLatest h.attempts a := by
  rw [mostRecent?] at ha
  split at ha
  · contradiction
  · next first rest he =>
    rw [he, ← Option.some.inj ha]
    exact (isLatest_singleton first).foldl_later rest

theorem mem_of_mostRecent? {h : History} {a : Attempt} (ha : h.mostRecent? = some a) :
    a ∈ h.attempts := (isLatest_of_mostRecent? ha).mem

/-- No attempt of a history started after its most recent one. -/
theorem start_le_of_mostRecent? {h : History} {a x : Attempt} (ha : h.mostRecent? = some a)
    (hx : x ∈ h.attempts) : x.start.nanos ≤ a.start.nanos :=
  (isLatest_of_mostRecent? ha).start_le hx

theorem mostRecent?_eq_none_iff {h : History} : h.mostRecent? = none ↔ h.attempts = [] := by
  rw [mostRecent?]
  split
  · next he => simp [he]
  · next he => simp [he]

/-- A list has one latest attempt: each of two would stand before the other one. -/
theorem IsLatest.eq {attempts : List Attempt} {a b : Attempt} (ha : IsLatest attempts a)
    (hb : IsLatest attempts b) : a = b := by
  have hstart : a.start.nanos = b.start.nanos :=
    Int.le_antisymm (hb.start_le ha.mem) (ha.start_le hb.mem)
  obtain ⟨before, after, rfl, hbefore, -⟩ := ha
  obtain ⟨before', after', hsplit, hbefore', -⟩ := hb
  rcases List.append_eq_append_iff.mp hsplit with ⟨between, rfl, htail⟩ | ⟨between, rfl, htail⟩
  · cases between with
    | nil => exact (List.cons.inj htail).1
    | cons x rest =>
      obtain ⟨rfl, -⟩ := List.cons.inj htail
      have hlt := hbefore' a (by simp)
      omega
  · cases between with
    | nil => exact (List.cons.inj htail).1.symm
    | cons x rest =>
      obtain ⟨rfl, -⟩ := List.cons.inj htail
      have hlt := hbefore b (by simp)
      omega

/-- The most recent attempt is the latest of those that are retained. -/
theorem mostRecent?_eq_some_iff {h : History} {a : Attempt} :
    h.mostRecent? = some a ↔ IsLatest h.attempts a := by
  constructor
  · exact isLatest_of_mostRecent?
  · intro ha
    cases hb : h.mostRecent? with
    | none =>
      have hmem := ha.mem
      rw [mostRecent?_eq_none_iff.mp hb] at hmem
      contradiction
    | some b => rw [ha.eq (isLatest_of_mostRecent? hb)]

theorem trim_eq_self {limit : Nat} {attempts : List Attempt}
    (h : limit = 0 ∨ attempts.length ≤ limit) : trim limit attempts = attempts := by
  rw [trim]
  split
  · rfl
  · next hlimit =>
    have hzero : attempts.length - limit = 0 := by omega
    rw [hzero, List.drop_zero]

theorem trim_trim (limit : Nat) (attempts : List Attempt) :
    trim limit (trim limit attempts) = trim limit attempts := by
  apply trim_eq_self
  rw [length_trim]
  split
  · next h => exact .inl h
  · exact .inr (Nat.min_le_right ..)

theorem trim_map (f : Attempt → Attempt) (limit : Nat) (attempts : List Attempt) :
    trim limit (attempts.map f) = (trim limit attempts).map f := by
  rw [trim, trim, List.length_map]
  split
  · rfl
  · rw [List.map_drop]

/-- Eviction takes from the front, so the attempt added last stays. -/
theorem getLast?_trim (limit : Nat) (attempts : List Attempt) :
    (trim limit attempts).getLast? = attempts.getLast? := by
  rw [trim]
  split
  · rfl
  · next hlimit =>
    rw [List.getLast?_drop]
    split
    · next hlength =>
      have hnil : attempts = [] := List.length_eq_zero_iff.mp (by omega)
      rw [hnil]; rfl
    · rfl

theorem mem_of_mem_trim {limit : Nat} {attempts : List Attempt} {a : Attempt}
    (h : a ∈ trim limit attempts) : a ∈ attempts := (trim_suffix limit attempts).subset h

/-- A history gains only the attempt that is added. -/
theorem mem_of_mem_add {h : History} {a x : Attempt} (hx : x ∈ (h.add a).attempts) :
    x ∈ h.attempts ∨ x = a := by
  rcases List.mem_append.mp (mem_of_mem_trim hx) with hx | hx
  · exact .inl hx
  · exact .inr (List.mem_singleton.mp hx)

/-- Each attempt starts at least `gap` nanoseconds after all that were added before it. -/
def Spaced (gap : Int) (attempts : List Attempt) : Prop :=
  attempts.Pairwise fun a b => gap ≤ b.start.since a.start

instance (gap : Int) (attempts : List Attempt) : Decidable (Spaced gap attempts) :=
  inferInstanceAs (Decidable (attempts.Pairwise fun a b => gap ≤ b.start.since a.start))

theorem Spaced.trim {gap : Int} {attempts : List Attempt} (h : Spaced gap attempts) (limit : Nat) :
    Spaced gap (History.trim limit attempts) :=
  List.Pairwise.sublist (trim_suffix limit attempts).sublist h

theorem Spaced.append {gap : Int} {attempts : List Attempt} {b : Attempt} (h : Spaced gap attempts)
    (hb : ∀ a ∈ attempts, gap ≤ b.start.since a.start) : Spaced gap (attempts ++ [b]) := by
  rw [Spaced, List.pairwise_append]
  refine ⟨h, List.pairwise_singleton .., ?_⟩
  intro a ha c hc
  rw [List.mem_singleton.mp hc]
  exact hb a ha

/-- An attempt that starts `gap` after the most recent one starts `gap` after all of them. -/
theorem Spaced.append_of_mostRecent? {gap : Int} {h : History} {b : Attempt}
    (hs : Spaced gap h.attempts)
    (hb : ∀ a, h.mostRecent? = some a → gap ≤ b.start.since a.start) :
    Spaced gap (h.attempts ++ [b]) := by
  apply hs.append
  intro x hx
  cases ha : h.mostRecent? with
  | none =>
    rw [mostRecent?_eq_none_iff] at ha
    rw [ha] at hx
    contradiction
  | some a =>
    have hle := start_le_of_mostRecent? ha hx
    have hgap := hb a ha
    rw [Instant.since] at hgap ⊢
    omega

/-- Where starts never descend, the most recent attempt starts with the one added last, and where
they ascend strictly it is that one. -/
theorem Spaced.getLast?_of_mostRecent? {gap : Int} {h : History} (hs : Spaced gap h.attempts)
    (hgap : 0 ≤ gap) {a : Attempt} (ha : h.mostRecent? = some a) :
    ∃ last, h.attempts.getLast? = some last ∧ a.start = last.start ∧ (0 < gap → a = last) := by
  have hmem := mem_of_mostRecent? ha
  have hne : h.attempts ≠ [] := List.ne_nil_of_mem hmem
  have hsplit := List.dropLast_concat_getLast hne
  have hle := start_le_of_mostRecent? ha (List.getLast_mem hne)
  refine ⟨h.attempts.getLast hne, List.getLast?_eq_some_getLast hne, ?_⟩
  rw [Spaced, ← hsplit, List.pairwise_append] at hs
  rw [← hsplit, List.mem_append] at hmem
  rcases hmem with hmem | hmem
  · have hfar := hs.2.2 a hmem _ List.mem_cons_self
    rw [Instant.since] at hfar
    refine ⟨Instant.nanos_inj.mp (by omega), fun hpos => ?_⟩
    exact absurd hpos (by omega)
  · rw [List.mem_singleton.mp hmem]
    exact ⟨rfl, fun _ => rfl⟩

/-- Strictly ascending starts leave no choice: selection by start finds the attempt added last. -/
theorem Spaced.mostRecent?_eq_getLast? {gap : Int} {h : History} (hs : Spaced gap h.attempts)
    (hgap : 0 < gap) : h.mostRecent? = h.attempts.getLast? := by
  cases ha : h.mostRecent? with
  | none =>
    rw [mostRecent?_eq_none_iff] at ha
    rw [ha]; rfl
  | some a =>
    obtain ⟨last, hlast, -, heq⟩ := hs.getLast?_of_mostRecent? (Int.le_of_lt hgap) ha
    rw [hlast, heq hgap]

theorem Spaced.start_mostRecent? {h : History} (hs : Spaced 0 h.attempts) :
    h.mostRecent?.map (·.start) = h.attempts.getLast?.map (·.start) := by
  cases ha : h.mostRecent? with
  | none =>
    rw [mostRecent?_eq_none_iff] at ha
    rw [ha]; rfl
  | some a =>
    obtain ⟨last, hlast, hstart, -⟩ := hs.getLast?_of_mostRecent? (Int.le_refl 0) ha
    rw [hlast, Option.map_some, Option.map_some, hstart]

end DirectoryAuth.History
