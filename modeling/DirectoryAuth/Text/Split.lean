/-! Cutting a text at the first occurrence of a character, or at every one of a kind. -/
namespace DirectoryAuth.Text

/-- The characters before and after the first `d`. -/
def cutAt? (d : Char) : List Char → Option (List Char × List Char)
  | [] => none
  | c :: rest => if c = d then some ([], rest) else (cutAt? d rest).map fun r => (c :: r.1, r.2)

theorem cutAt?_append (d : Char) {before : List Char} (h : d ∉ before) (after : List Char) :
    cutAt? d (before ++ d :: after) = some (before, after) := by
  induction before with
  | nil => simp [cutAt?]
  | cons c rest ih =>
    have hc : c ≠ d := fun e => h (by simp [e])
    have hr : d ∉ rest := fun m => h (by simp [m])
    simp [cutAt?, hc, ih hr]

theorem eq_append_of_cutAt? {d : Char} {cs before after : List Char}
    (h : cutAt? d cs = some (before, after)) : cs = before ++ d :: after ∧ d ∉ before := by
  induction cs generalizing before with
  | nil => simp [cutAt?] at h
  | cons c rest ih =>
    rw [cutAt?] at h
    split at h
    · next hc =>
      obtain ⟨rfl, rfl⟩ := Prod.mk.inj (Option.some.inj h)
      simp [hc]
    · next hc =>
      obtain ⟨r, hr, he⟩ := Option.map_eq_some_iff.1 h
      obtain ⟨rfl, rfl⟩ := Prod.mk.inj he
      obtain ⟨h1, h2⟩ := ih hr
      exact ⟨by simp [h1], by simp [h2, Ne.symm hc]⟩

theorem cutAt?_eq_some_iff {d : Char} {cs before after : List Char} :
    cutAt? d cs = some (before, after) ↔ cs = before ++ d :: after ∧ d ∉ before :=
  ⟨eq_append_of_cutAt?, fun ⟨h, hd⟩ => h ▸ cutAt?_append d hd after⟩

theorem cutAt?_eq_none_iff {d : Char} {cs : List Char} : cutAt? d cs = none ↔ d ∉ cs := by
  induction cs with
  | nil => simp [cutAt?]
  | cons c rest ih =>
    by_cases hc : c = d
    · simp [cutAt?, hc]
    · simp [cutAt?, hc, ih, Ne.symm hc]

/-- The text before and after the first `d`. -/
def splitAt? (d : Char) (s : String) : Option (String × String) :=
  (cutAt? d s.toList).map fun r => (String.ofList r.1, String.ofList r.2)

/-- The pieces between the characters that satisfy `p`; there is always at least one. -/
def pieces (p : Char → Bool) : List Char → List (List Char)
  | [] => [[]]
  | c :: rest =>
    if p c then [] :: pieces p rest
    else match pieces p rest with
      | [] => [[c]]
      | piece :: more => (c :: piece) :: more

theorem pieces_ne_nil (p : Char → Bool) (cs : List Char) : pieces p cs ≠ [] := by
  cases cs with
  | nil => simp [pieces]
  | cons c rest =>
    rw [pieces]
    split
    · simp
    · split <;> simp

end DirectoryAuth.Text
