import DirectoryAuth.Text.Lowercase

/-! Lower case and delimiters. The form of a capital sigma depends on the word that it stands in,
and a character that is neither cased nor case-ignorable ends a word; so the two sides of such a
character are mapped each by itself. -/
namespace DirectoryAuth.Text

/-- The image of a character between the characters of `before`, the nearest first, and `rest`. -/
def lowercaseBetween (before : List Char) (c : Char) (rest : List Char) : List Char :=
  if c = 'Σ' then [if seesCased before && !seesCased rest then 'ς' else 'σ'] else lowercaseChar c

theorem lowercaseAfter_cons (before : List Char) (c : Char) (rest : List Char) :
    lowercaseAfter before (c :: rest) =
      lowercaseBetween before c rest ++ lowercaseAfter (c :: before) rest := rfl

theorem seesCased_cons (c : Char) (rest : List Char) :
    seesCased (c :: rest) = if isCaseIgnorable c then seesCased rest else isCased c := by
  by_cases h : isCaseIgnorable c <;> simp [seesCased, h]

/-- All that matters of what stands before a text is whether the rule of the sigma sees a cased
character there. -/
theorem lowercaseAfter_congr {before other : List Char} (h : seesCased before = seesCased other)
    (cs : List Char) : lowercaseAfter before cs = lowercaseAfter other cs := by
  induction cs generalizing before other with
  | nil => rfl
  | cons c rest ih =>
    have hnext : seesCased (c :: before) = seesCased (c :: other) := by
      rw [seesCased_cons, seesCased_cons, h]
    rw [lowercaseAfter_cons, lowercaseAfter_cons, ih hnext, lowercaseBetween, lowercaseBetween, h]

/-- No letter has a lower-case form among the characters up to the backquote. -/
theorem lowercaseCode_eq_self_or_lt (n : Nat) : lowercaseCode n = n ∨ 0x60 < lowercaseCode n := by
  have hruns : ∀ run ∈ lowercaseRuns, (0x60 : Int) < run.first + run.shift := by
    decide +kernel
  rw [lowercaseCode]
  cases hfind : lowercaseRuns.find? (·.covers n) with
  | none => exact .inl rfl
  | some run =>
    have hrun := hruns run (List.mem_of_find?_eq_some hfind)
    have hcovers := List.find?_some hfind
    simp only [CaseRun.covers, Bool.and_eq_true, decide_eq_true_eq] at hcovers
    simp only [CaseRun.apply]
    omega

/-- A number that is no code point stands for NUL. -/
theorem toNat_ofNat_eq_or (n : Nat) : (Char.ofNat n).toNat = n ∨ (Char.ofNat n).toNat = 0 := by
  by_cases hvalid : n.isValidChar
  · left
    rw [Char.ofNat, dif_pos hvalid]
    rfl
  · right
    rw [Char.ofNat, dif_neg hvalid]
    rfl

/-- What has a lower-case form among the characters up to the backquote is that form itself. -/
theorem eq_of_mem_lowercaseChar {c d : Char} (hd : d.toNat ≤ 0x60) (hnul : d.toNat ≠ 0)
    (h : d ∈ lowercaseChar c) : d = c := by
  rw [lowercaseChar] at h
  split at h
  · simp only [List.mem_cons, List.not_mem_nil, or_false] at h
    rcases h with rfl | rfl <;> contradiction
  · rw [List.mem_singleton] at h
    have hcode : d.toNat = lowercaseCode c.toNat :=
      h ▸ (toNat_ofNat_eq_or (lowercaseCode c.toNat)).resolve_right (h ▸ hnul)
    rcases lowercaseCode_eq_self_or_lt c.toNat with hself | hlt
    · exact Char.toNat_inj.mp (hcode.trans hself)
    · omega

theorem lowercaseBetween_ne_nil (before : List Char) (c : Char) (rest : List Char) :
    lowercaseBetween before c rest ≠ [] := by
  unfold lowercaseBetween lowercaseChar
  split
  · exact List.cons_ne_nil _ _
  · split <;> exact List.cons_ne_nil _ _

@[simp] theorem lowercase_eq_empty_iff {s : String} : lowercase s = "" ↔ s = "" := by
  rw [lowercase, String.ofList_eq_empty_iff, ← String.toList_eq_nil_iff, lowercaseChars]
  cases s.toList with
  | nil => simp [lowercaseAfter]
  | cons c rest => simp [lowercaseAfter_cons, lowercaseBetween_ne_nil]

/-- A character that ends a word, stands for itself in lower case and comes from no other. -/
structure IsDelimiter (d : Char) : Prop where
  not_cased : isCased d = false
  not_ignorable : isCaseIgnorable d = false
  lowercase_eq : lowercaseChar d = [d]
  le_backquote : d.toNat ≤ 0x60
  ne_zero : d.toNat ≠ 0

theorem isDelimiter_comma : IsDelimiter ',' := by
  constructor <;> decide +kernel

theorem isDelimiter_equals : IsDelimiter '=' := by
  constructor <;> decide +kernel

theorem isDelimiter_backslash : IsDelimiter '\\' := by
  constructor <;> decide +kernel

namespace IsDelimiter

variable {d : Char} (hd : IsDelimiter d)
include hd

theorem seesCased_cons (rest : List Char) : seesCased (d :: rest) = false := by
  rw [Text.seesCased_cons, hd.not_ignorable, if_neg (by decide), hd.not_cased]

theorem seesCased_append (cs rest : List Char) : seesCased (cs ++ d :: rest) = seesCased cs := by
  induction cs with
  | nil => exact hd.seesCased_cons rest
  | cons c more ih => rw [List.cons_append, Text.seesCased_cons, Text.seesCased_cons, ih]

theorem lowercaseBetween_eq (before rest : List Char) : lowercaseBetween before d rest = [d] := by
  have hne : d ≠ 'Σ' := by
    rintro rfl
    exact absurd hd.le_backquote (by decide)
  rw [lowercaseBetween, if_neg hne, hd.lowercase_eq]

/-- Nothing but a delimiter becomes that delimiter. -/
theorem eq_of_mem_lowercaseBetween {before rest : List Char} {c : Char}
    (h : d ∈ lowercaseBetween before c rest) : d = c := by
  have hle := hd.le_backquote
  rw [lowercaseBetween] at h
  split at h
  · rw [List.mem_singleton] at h
    split at h <;> subst h <;> contradiction
  · exact eq_of_mem_lowercaseChar hle hd.ne_zero h

theorem lowercaseAfter_cons (before rest : List Char) :
    lowercaseAfter before (d :: rest) = d :: lowercaseChars rest := by
  have hstart : seesCased (d :: before) = seesCased [] := hd.seesCased_cons before
  rw [Text.lowercaseAfter_cons, hd.lowercaseBetween_eq, lowercaseAfter_congr hstart]
  rfl

theorem lowercaseAfter_append (before cs rest : List Char) :
    lowercaseAfter before (cs ++ d :: rest) =
      lowercaseAfter before cs ++ d :: lowercaseChars rest := by
  induction cs generalizing before with
  | nil => exact hd.lowercaseAfter_cons before rest
  | cons c more ih =>
    rw [List.cons_append, Text.lowercaseAfter_cons, ih, Text.lowercaseAfter_cons, lowercaseBetween,
      hd.seesCased_append, ← lowercaseBetween, List.append_assoc]

/-- The two sides of a delimiter are mapped each by itself. -/
theorem lowercaseChars_append (cs rest : List Char) :
    lowercaseChars (cs ++ d :: rest) = lowercaseChars cs ++ d :: lowercaseChars rest :=
  hd.lowercaseAfter_append [] cs rest

end IsDelimiter

end DirectoryAuth.Text
