import DirectoryAuth.Proofs.Text.Lowercase
import DirectoryAuth.Text.AsciiCase
import DirectoryAuth.Text.Blank

/-! The case of ASCII letters, seen by everything else that looks at a text. A letter keeps its
class when its case changes, and no other character becomes or was a letter; so a text is cut,
trimmed and mapped to lower case at the same places whatever the case of its letters. -/
namespace DirectoryAuth.Text

/-- What does not tell a capital letter from its small form does not see the case of letters. -/
theorem apply_asciiLowerChar {α : Type} (f : Char → α)
    (h : ∀ i < 26, f (Char.ofNat (i + 97)) = f (Char.ofNat (i + 65))) (c : Char) :
    f (asciiLowerChar c) = f c := by
  rw [asciiLowerChar]
  split
  next hc =>
    have hlow : 65 ≤ c.toNat := hc.1
    have hhigh : c.toNat ≤ 90 := hc.2
    have hcapital := h (c.toNat - 65) (by omega)
    rwa [show c.toNat - 65 + 97 = c.toNat + 32 by omega, Nat.sub_add_cancel hlow,
      Char.ofNat_toNat] at hcapital
  next => rfl

theorem isBlankChar_asciiLowerChar (c : Char) : isBlankChar (asciiLowerChar c) = isBlankChar c :=
  apply_asciiLowerChar isBlankChar (by decide) c

theorem isCased_asciiLowerChar (c : Char) : isCased (asciiLowerChar c) = isCased c :=
  apply_asciiLowerChar isCased (by decide +kernel) c

theorem isCaseIgnorable_asciiLowerChar (c : Char) :
    isCaseIgnorable (asciiLowerChar c) = isCaseIgnorable c :=
  apply_asciiLowerChar isCaseIgnorable (by decide +kernel) c

theorem lowercaseChar_asciiLowerChar (c : Char) :
    lowercaseChar (asciiLowerChar c) = lowercaseChar c :=
  apply_asciiLowerChar lowercaseChar (by decide +kernel) c

theorem asciiLowerChar_asciiLowerChar (c : Char) :
    asciiLowerChar (asciiLowerChar c) = asciiLowerChar c :=
  apply_asciiLowerChar asciiLowerChar (by decide) c

/-- A character that is no letter comes from itself only. -/
theorem asciiLowerChar_eq_iff {d : Char}
    (hd : ∀ i < 26, (Char.ofNat (i + 97) == d) = (Char.ofNat (i + 65) == d)) (c : Char) :
    asciiLowerChar c = d ↔ c = d := by
  rw [← beq_iff_eq, ← beq_iff_eq (a := c), apply_asciiLowerChar (· == d) hd]

@[simp] theorem toList_asciiLower (s : String) :
    (asciiLower s).toList = s.toList.map asciiLowerChar := String.toList_ofList

theorem asciiLower_ofList (cs : List Char) :
    asciiLower (String.ofList cs) = String.ofList (cs.map asciiLowerChar) := by
  rw [asciiLower, String.toList_ofList]

@[simp] theorem asciiLower_eq_empty_iff {s : String} : asciiLower s = "" ↔ s = "" := by
  rw [asciiLower, String.ofList_eq_empty_iff, List.map_eq_nil_iff, String.toList_eq_nil_iff]

/-- Texts differ in the case of ASCII letters only if they have the same small letters. -/
theorem eqIgnoreAsciiCase_iff_asciiLower {s t : String} :
    eqIgnoreAsciiCase s t = true ↔ asciiLower s = asciiLower t := by
  rw [eqIgnoreAsciiCase_eq_true_iff, asciiLower, asciiLower, String.ofList_inj]

theorem eqIgnoreAsciiCase_asciiLower (s t : String) :
    eqIgnoreAsciiCase (asciiLower s) t = eqIgnoreAsciiCase s t := by
  simp [eqIgnoreAsciiCase, Function.comp_def, asciiLowerChar_asciiLowerChar]

theorem cutAt?_map_asciiLowerChar {d : Char} (hd : ∀ c, asciiLowerChar c = d ↔ c = d)
    (cs : List Char) : cutAt? d (cs.map asciiLowerChar) =
      (cutAt? d cs).map fun r => (r.1.map asciiLowerChar, r.2.map asciiLowerChar) := by
  induction cs with
  | nil => rfl
  | cons c rest ih =>
    rw [List.map_cons, cutAt?, cutAt?, ih]
    simp only [hd]
    split
    · rfl
    · cases cutAt? d rest <;> rfl

theorem trimStart_map_asciiLowerChar (cs : List Char) :
    trimStart (cs.map asciiLowerChar) = (trimStart cs).map asciiLowerChar := by
  rw [trimStart, List.dropWhile_map, trimStart]
  congr 2
  exact funext isBlankChar_asciiLowerChar

theorem trimChars_map_asciiLowerChar (cs : List Char) :
    trimChars (cs.map asciiLowerChar) = (trimChars cs).map asciiLowerChar := by
  rw [trimChars, trimStart_map_asciiLowerChar, trimEnd, ← List.map_reverse, ← trimStart,
    trimStart_map_asciiLowerChar, ← List.map_reverse]
  rfl

/-- Letters count for the rule of the sigma in either case. -/
theorem seesCased_map_asciiLowerChar (cs : List Char) :
    seesCased (cs.map asciiLowerChar) = seesCased cs := by
  induction cs with
  | nil => rfl
  | cons c rest ih =>
    rw [List.map_cons, seesCased_cons, seesCased_cons, ih, isCased_asciiLowerChar,
      isCaseIgnorable_asciiLowerChar]

theorem lowercaseBetween_asciiLowerChar (before : List Char) (c : Char) (rest : List Char) :
    lowercaseBetween (before.map asciiLowerChar) (asciiLowerChar c) (rest.map asciiLowerChar) =
      lowercaseBetween before c rest := by
  have hsigma : asciiLowerChar c = 'Σ' ↔ c = 'Σ' := asciiLowerChar_eq_iff (by decide) c
  simp only [lowercaseBetween, hsigma, seesCased_map_asciiLowerChar, lowercaseChar_asciiLowerChar]

theorem lowercaseAfter_map_asciiLowerChar (before cs : List Char) :
    lowercaseAfter (before.map asciiLowerChar) (cs.map asciiLowerChar) =
      lowercaseAfter before cs := by
  induction cs generalizing before with
  | nil => rfl
  | cons c rest ih =>
    have hrest := ih (c :: before)
    rw [List.map_cons] at hrest
    rw [List.map_cons, lowercaseAfter_cons, lowercaseAfter_cons, lowercaseBetween_asciiLowerChar,
      hrest]

/-- The case of ASCII letters is lost in lower case, also to the sigma beside them. -/
theorem lowercase_asciiLower (s : String) : lowercase (asciiLower s) = lowercase s := by
  rw [lowercase, toList_asciiLower, lowercaseChars]
  exact congrArg String.ofList (lowercaseAfter_map_asciiLowerChar [] s.toList)

end DirectoryAuth.Text
