import Mathlib.Data.List.Forall2

/-! Computations that can fail, in sequence: all of them succeed or the first that fails decides. -/
namespace DirectoryAuth

variable {ε α β : Type}

theorem toOption_eq_some_iff {x : Except ε α} {a : α} : x.toOption = some a ↔ x = .ok a := by
  cases x <;> simp [Except.toOption]

/-- Whether a computation succeeds with a value, also where its errors cannot be compared. -/
instance decidableEqOk [DecidableEq α] (x : Except ε α) (a : α) : Decidable (x = .ok a) :=
  decidable_of_iff (x.toOption = some a) toOption_eq_some_iff

theorem bind_eq_ok_iff {x : Except ε α} {f : α → Except ε β} {b : β} :
    (x >>= f) = .ok b ↔ ∃ a, x = .ok a ∧ f a = .ok b := by
  cases x <;> simp [bind, Except.bind]

theorem bind_eq_error_iff {x : Except ε α} {f : α → Except ε β} {e : ε} :
    (x >>= f) = .error e ↔ x = .error e ∨ ∃ a, x = .ok a ∧ f a = .error e := by
  cases x <;> simp [bind, Except.bind]

/-- A whole list is read if each element is. -/
theorem mapM_eq_ok_iff {read : α → Except ε β} {list : List α} {values : List β} :
    list.mapM read = .ok values ↔ List.Forall₂ (fun a b => read a = .ok b) list values := by
  induction list generalizing values with
  | nil => simp [pure, Except.pure, eq_comm]
  | cons a rest ih =>
    rw [List.mapM_cons, bind_eq_ok_iff, List.forall₂_cons_left_iff]
    simp only [bind_eq_ok_iff, ih]
    constructor
    · rintro ⟨b, hb, values, hvalues, hresult⟩
      exact ⟨b, values, hb, hvalues, (Except.ok.inj hresult).symm⟩
    · rintro ⟨b, values, hb, hvalues, rfl⟩
      exact ⟨b, hb, values, hvalues, rfl⟩

/-- Otherwise the first element that is not read decides. -/
theorem mapM_eq_error_iff {read : α → Except ε β} {list : List α} {e : ε} :
    list.mapM read = .error e ↔ ∃ before a after, list = before ++ a :: after ∧
      (∀ x ∈ before, ∃ b, read x = .ok b) ∧ read a = .error e := by
  induction list with
  | nil => simp [pure, Except.pure]
  | cons a rest ih =>
    rw [List.mapM_cons, bind_eq_error_iff]
    simp only [bind_eq_error_iff, ih]
    constructor
    · rintro (ha | ⟨b, hb, ⟨before, c, after, rfl, hbefore, hc⟩ | ⟨_, -, hpure⟩⟩)
      · exact ⟨[], a, rest, rfl, by simp, ha⟩
      · exact ⟨a :: before, c, after, rfl, List.forall_mem_cons.mpr ⟨⟨b, hb⟩, hbefore⟩, hc⟩
      · contradiction
    · rintro ⟨before, c, after, hlist, hbefore, hc⟩
      cases before with
      | nil =>
        obtain ⟨rfl, rfl⟩ := List.cons.inj hlist
        exact .inl hc
      | cons first more =>
        obtain ⟨rfl, rfl⟩ := List.cons.inj hlist
        obtain ⟨⟨b, hb⟩, hmore⟩ := List.forall_mem_cons.mp hbefore
        exact .inr ⟨b, hb, .inl ⟨more, c, after, rfl, hmore, hc⟩⟩

/-- Reading back a whole list, when each element is read back from its own form. -/
theorem mapM_map_eq_ok {read : α → Except ε β} {write : β → α} {list : List β}
    (h : ∀ b ∈ list, read (write b) = .ok b) : (list.map write).mapM read = .ok list := by
  rw [mapM_eq_ok_iff, List.forall₂_map_left_iff, List.forall₂_same]
  exact h

end DirectoryAuth
