import DirectoryAuth.Table
import Mathlib.Data.List.Induction
import Mathlib.Data.List.Nodup

/-! The keys of a table, each of which it has once, and tables made from a list of entries. -/
namespace DirectoryAuth.Table

variable {α : Type}

theorem size_eq_length_keys (t : Table α) : t.size = t.keys.length := by
  simp [size, keys]

@[simp] theorem keys_empty : ({} : Table α).keys = [] := rfl

@[simp] theorem keys_map (f : α → α) (t : Table α) : (t.map f).keys = t.keys := by
  simp [keys, map]

theorem keys_setEntry (key : String) (value : α) (entries : List (String × α)) :
    (setEntry key value entries).map (·.1) =
      if key ∈ entries.map (·.1) then entries.map (·.1) else entries.map (·.1) ++ [key] := by
  induction entries with
  | nil => simp [setEntry]
  | cons e rest ih =>
    by_cases he : e.1 = key
    · simp [setEntry, he]
    · have hne : ¬key = e.1 := fun h => he h.symm
      by_cases hmem : key ∈ rest.map (·.1)
      · rw [if_pos hmem] at ih
        simp_all [setEntry]
      · rw [if_neg hmem] at ih
        simp_all [setEntry]

/-- A new key comes last, and one that is there stays where it is. -/
theorem keys_set (t : Table α) (key : String) (value : α) :
    (t.set key value).keys = if key ∈ t.keys then t.keys else t.keys ++ [key] :=
  keys_setEntry key value t.entries

/-- The keys are those that a value is found for. -/
theorem mem_keys_iff {t : Table α} {key : String} :
    key ∈ t.keys ↔ (t.get? key).isSome := by
  obtain ⟨entries⟩ := t
  simp only [keys, get?]
  induction entries with
  | nil => simp
  | cons e rest ih =>
    obtain ⟨k, v⟩ := e
    rw [lookup_entry, List.map_cons, List.mem_cons, ih]
    by_cases hkey : key = k
    · simp [hkey]
    · simp [hkey]

theorem size_set (t : Table α) (key : String) (value : α) :
    (t.set key value).size = if (t.get? key).isSome then t.size else t.size + 1 := by
  rw [size_eq_length_keys, keys_set, size_eq_length_keys]
  by_cases hkey : key ∈ t.keys
  · rw [if_pos hkey, if_pos (mem_keys_iff.mp hkey)]
  · rw [if_neg hkey, if_neg fun h => hkey (mem_keys_iff.mpr h), List.length_append]
    rfl

theorem mem_keys_set {t : Table α} {key other : String} {value : α} :
    other ∈ (t.set key value).keys ↔ other ∈ t.keys ∨ other = key := by
  rw [keys_set]
  by_cases hkey : key ∈ t.keys
  · rw [if_pos hkey]
    constructor
    · exact .inl
    · rintro (h | rfl)
      · exact h
      · exact hkey
  · simp [hkey]

theorem nodup_keys_set {t : Table α} (h : t.keys.Nodup) (key : String) (value : α) :
    (t.set key value).keys.Nodup := by
  rw [keys_set]
  by_cases hkey : key ∈ t.keys
  · rwa [if_pos hkey]
  · rw [if_neg hkey, ← List.concat_eq_append]
    exact h.concat hkey

theorem ofList_concat (entries : List (String × α)) (e : String × α) :
    ofList (entries ++ [e]) = (ofList entries).set e.1 e.2 := by
  simp [ofList]

/-- The last entry with a key decides. -/
theorem get?_ofList (entries : List (String × α)) (key : String) :
    (ofList entries).get? key = (entries.filter (·.1 = key)).getLast?.map (·.2) := by
  induction entries using List.reverseRecOn with
  | nil => rfl
  | append_singleton entries e ih =>
    rw [ofList_concat, get?_set, List.filter_append]
    by_cases hkey : key = e.1
    · simp [hkey]
    · have hne : ¬e.1 = key := fun h => hkey h.symm
      simp [hkey, hne, ih]

theorem nodup_keys_ofList (entries : List (String × α)) : (ofList entries).keys.Nodup := by
  induction entries using List.reverseRecOn with
  | nil => simp [ofList]
  | append_singleton entries e ih =>
    rw [ofList_concat]
    exact nodup_keys_set ih e.1 e.2

theorem mem_keys_ofList {entries : List (String × α)} {key : String} :
    key ∈ (ofList entries).keys ↔ ∃ e ∈ entries, e.1 = key := by
  induction entries using List.reverseRecOn with
  | nil => simp [ofList]
  | append_singleton entries e ih =>
    rw [ofList_concat, mem_keys_set, ih]
    simp [or_and_right, exists_or, eq_comm]

end DirectoryAuth.Table
