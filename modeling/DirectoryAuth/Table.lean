/-! Tables of values by a text key, in the order in which the keys first came. -/
namespace DirectoryAuth

structure Table (α : Type) where
  entries : List (String × α) := []
  deriving Inhabited

namespace Table

variable {α : Type}

def size (t : Table α) : Nat := t.entries.length

def keys (t : Table α) : List String := t.entries.map (·.1)

def get? (t : Table α) (key : String) : Option α := t.entries.lookup key

def contains (t : Table α) (key : String) : Bool := (t.get? key).isSome

/-- The entries with the value of one key replaced, or with a new entry at the end. -/
def setEntry (key : String) (value : α) : List (String × α) → List (String × α)
  | [] => [(key, value)]
  | e :: rest => if e.1 = key then (key, value) :: rest else e :: setEntry key value rest

def set (t : Table α) (key : String) (value : α) : Table α := ⟨setEntry key value t.entries⟩

def erase (t : Table α) (key : String) : Table α := ⟨t.entries.filter (·.1 != key)⟩

def map (f : α → α) (t : Table α) : Table α := ⟨t.entries.map fun e => (e.1, f e.2)⟩

/-- A later entry replaces an earlier one with its key. -/
def ofList (entries : List (String × α)) : Table α :=
  entries.foldl (fun t e => t.set e.1 e.2) {}

theorem lookup_entry (k other : String) (v : α) (rest : List (String × α)) :
    List.lookup other ((k, v) :: rest) = if other = k then some v else rest.lookup other := by
  rw [List.lookup_cons]
  by_cases h : other = k
  · simp [h]
  · simp [h, beq_false_of_ne h]

theorem lookup_setEntry (key other : String) (value : α) (entries : List (String × α)) :
    (setEntry key value entries).lookup other =
      if other = key then some value else entries.lookup other := by
  induction entries with
  | nil => simp [setEntry, lookup_entry]
  | cons e rest ih =>
    obtain ⟨k, v⟩ := e
    rw [setEntry]
    by_cases hk : k = key
    · by_cases h : other = key <;> simp [hk, lookup_entry, h]
    · by_cases h : other = k
      · simp [hk, h]
      · simp [hk, lookup_entry, h, ih]

@[simp] theorem get?_set (t : Table α) (key other : String) (value : α) :
    (t.set key value).get? other = if other = key then some value else t.get? other :=
  lookup_setEntry key other value t.entries

theorem mem_setEntry {key : String} {value : α} {entries : List (String × α)} {e : String × α}
    (h : e ∈ setEntry key value entries) : e = (key, value) ∨ e ∈ entries := by
  induction entries with
  | nil => exact .inl (List.mem_singleton.mp h)
  | cons first rest ih =>
    rw [setEntry] at h
    split at h
    · rcases List.mem_cons.mp h with h | h
      · exact .inl h
      · exact .inr (List.mem_cons_of_mem _ h)
    · rcases List.mem_cons.mp h with h | h
      · exact .inr (h ▸ List.mem_cons_self)
      · exact (ih h).imp_right (List.mem_cons_of_mem _)

/-- A table has nothing but what it had and what was put into it. -/
theorem mem_set {t : Table α} {key : String} {value : α} {e : String × α}
    (h : e ∈ (t.set key value).entries) : e = (key, value) ∨ e ∈ t.entries := mem_setEntry h

theorem mem_of_lookup {key : String} {value : α} {entries : List (String × α)}
    (h : entries.lookup key = some value) : (key, value) ∈ entries := by
  induction entries with
  | nil => simp at h
  | cons first rest ih =>
    obtain ⟨k, v⟩ := first
    rw [lookup_entry] at h
    split at h
    · next hk => simp [hk, Option.some.inj h]
    · exact List.mem_cons_of_mem _ (ih h)

theorem mem_of_get? {t : Table α} {key : String} {value : α} (h : t.get? key = some value) :
    (key, value) ∈ t.entries := mem_of_lookup h

theorem setEntry_eq_self {key : String} {value : α} {entries : List (String × α)}
    (h : entries.lookup key = some value) : setEntry key value entries = entries := by
  induction entries with
  | nil => simp at h
  | cons first rest ih =>
    obtain ⟨k, v⟩ := first
    rw [lookup_entry] at h
    rw [setEntry]
    by_cases hk : k = key
    · rw [if_pos hk.symm] at h
      simp [hk, Option.some.inj h]
    · rw [if_neg (Ne.symm hk)] at h
      simp [hk, ih h]

/-- Putting in what is there changes nothing. -/
theorem set_eq_self {t : Table α} {key : String} {value : α} (h : t.get? key = some value) :
    t.set key value = t := by
  rw [set, setEntry_eq_self h]

@[simp] theorem get?_map (f : α → α) (t : Table α) (key : String) :
    (t.map f).get? key = (t.get? key).map f := by
  obtain ⟨entries⟩ := t
  simp only [get?, map]
  induction entries with
  | nil => rfl
  | cons e rest ih =>
    rw [List.map_cons, lookup_entry, lookup_entry, ih]
    split <;> rfl

end Table

end DirectoryAuth
