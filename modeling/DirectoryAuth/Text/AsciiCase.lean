/-! Letter case of the ASCII letters; every other character is left alone. -/
namespace DirectoryAuth.Text

/-- `A` to `Z` become `a` to `z`. -/
def asciiLowerChar (c : Char) : Char :=
  if 'A' ≤ c ∧ c ≤ 'Z' then Char.ofNat (c.toNat + 32) else c

def asciiLower (s : String) : String := String.ofList (s.toList.map asciiLowerChar)

/-- Equality up to the case of ASCII letters. -/
def eqIgnoreAsciiCase (s t : String) : Bool :=
  s.toList.map asciiLowerChar == t.toList.map asciiLowerChar

theorem eqIgnoreAsciiCase_refl (s : String) : eqIgnoreAsciiCase s s = true := by
  simp [eqIgnoreAsciiCase]

theorem eqIgnoreAsciiCase_comm (s t : String) : eqIgnoreAsciiCase s t = eqIgnoreAsciiCase t s := by
  simp only [eqIgnoreAsciiCase]
  exact BEq.comm

theorem eqIgnoreAsciiCase_eq_true_iff {s t : String} :
    eqIgnoreAsciiCase s t = true ↔ s.toList.map asciiLowerChar = t.toList.map asciiLowerChar := by
  simp [eqIgnoreAsciiCase]

theorem eqIgnoreAsciiCase_congr {s t : String} (h : eqIgnoreAsciiCase s t = true) (u : String) :
    eqIgnoreAsciiCase s u = eqIgnoreAsciiCase t u := by
  rw [eqIgnoreAsciiCase, eqIgnoreAsciiCase_eq_true_iff.mp h, eqIgnoreAsciiCase]

end DirectoryAuth.Text
