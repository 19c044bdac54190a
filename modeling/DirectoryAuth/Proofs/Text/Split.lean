import DirectoryAuth.Text.Blank

/-! Splitting undoes joining: a text cut at its first or at its last delimiter, and words that were
put together with blanks between them. -/
namespace DirectoryAuth.Text

theorem splitAt?_eq_some_iff {d : Char} {s before after : String} :
    splitAt? d s = some (before, after) ↔
      s.toList = before.toList ++ d :: after.toList ∧ d ∉ before.toList := by
  rw [splitAt?, Option.map_eq_some_iff]
  constructor
  · rintro ⟨r, hr, he⟩
    obtain ⟨rfl, rfl⟩ := Prod.mk.inj he
    simpa using cutAt?_eq_some_iff.mp hr
  · intro h
    exact ⟨_, cutAt?_eq_some_iff.mpr h, by simp⟩

/-- Where no delimiter follows, the last one ends the part before it. -/
theorem append_cons_inj {d : Char} {a b x y : List Char} (hx : d ∉ x) (hy : d ∉ y) :
    a ++ d :: x = b ++ d :: y ↔ a = b ∧ x = y := by
  constructor
  · intro h
    have hcut : ∀ c z : List Char, d ∉ z →
        cutAt? d (c ++ d :: z).reverse = some (z.reverse, c.reverse) := by
      intro c z hz
      have hsplit : (c ++ d :: z).reverse = z.reverse ++ d :: c.reverse := by simp
      rw [hsplit, cutAt?_append]
      simpa using hz
    have hpair := hcut a x hx
    rw [h, hcut b y hy] at hpair
    obtain ⟨hend, hstart⟩ := Prod.mk.inj (Option.some.inj hpair)
    exact ⟨(List.reverse_inj.mp hstart).symm, (List.reverse_inj.mp hend).symm⟩
  · rintro ⟨rfl, rfl⟩
    rfl

section
variable {p : Char → Bool} {word : List Char}

/-- Text without a delimiter only makes the first piece longer. -/
theorem pieces_append (h : ∀ c ∈ word, p c = false) {after piece : List Char}
    {more : List (List Char)} (hafter : pieces p after = piece :: more) :
    pieces p (word ++ after) = (word ++ piece) :: more := by
  induction word with
  | nil => exact hafter
  | cons c rest ih =>
    have hc := h c (by simp)
    have hrest := ih fun d hd => h d (by simp [hd])
    simp [pieces, hc, hrest]

theorem pieces_of_forall_not (h : ∀ c ∈ word, p c = false) : pieces p word = [word] := by
  have hnil : pieces p [] = [[]] := rfl
  simpa using pieces_append h hnil

theorem pieces_append_cons (h : ∀ c ∈ word, p c = false) {d : Char} (hd : p d = true)
    (after : List Char) : pieces p (word ++ d :: after) = word :: pieces p after := by
  have hdelimiter : pieces p (d :: after) = [] :: pieces p after := by simp [pieces, hd]
  simpa using pieces_append h hdelimiter

theorem pieces_intercalate {d : Char} (hd : p d = true) {parts : List (List Char)}
    (hne : parts ≠ []) (h : ∀ part ∈ parts, ∀ c ∈ part, p c = false) :
    pieces p ([d].intercalate parts) = parts := by
  induction parts with
  | nil => contradiction
  | cons part rest ih =>
    have hpart := h part (by simp)
    have hrest : ∀ other ∈ rest, ∀ c ∈ other, p c = false :=
      fun other hother => h other (by simp [hother])
    cases rest with
    | nil => simpa using pieces_of_forall_not hpart
    | cons next more =>
      rw [List.intercalate_cons_cons, List.append_assoc, List.singleton_append,
        pieces_append_cons hpart hd, ih (by simp) hrest]

end

/-- Text without delimiters at the end of a text makes the last of its pieces longer. -/
theorem pieces_append_of_forall_not (p : Char → Bool) (before : List Char) :
    ∃ init last, ∀ after : List Char, (∀ c ∈ after, p c = false) →
      pieces p (before ++ after) = init ++ [last ++ after] := by
  induction before with
  | nil => exact ⟨[], [], fun after h => pieces_of_forall_not h⟩
  | cons c rest ih =>
    obtain ⟨init, last, hrest⟩ := ih
    cases hc : p c with
    | true => exact ⟨[] :: init, last, fun after h => by simp [pieces, hc, hrest after h]⟩
    | false =>
      cases init with
      | nil => exact ⟨[], c :: last, fun after h => by simp [pieces, hc, hrest after h]⟩
      | cons piece more =>
        exact ⟨(c :: piece) :: more, last, fun after h => by simp [pieces, hc, hrest after h]⟩

/-- Every character is a delimiter or in one of the pieces. -/
theorem mem_pieces {p : Char → Bool} {cs : List Char} {c : Char} (h : c ∈ cs) :
    p c = true ∨ ∃ piece ∈ pieces p cs, c ∈ piece := by
  induction cs with
  | nil => contradiction
  | cons d rest ih =>
    obtain ⟨piece, more, hrest⟩ := List.exists_cons_of_ne_nil (pieces_ne_nil p rest)
    cases hd : p d with
    | true =>
      rcases List.mem_cons.mp h with rfl | h
      · exact .inl hd
      · refine (ih h).imp_right fun ⟨found, hfound, hc⟩ => ?_
        exact ⟨found, by simp [pieces, hd, hfound], hc⟩
    | false =>
      rcases List.mem_cons.mp h with rfl | h
      · exact .inr ⟨c :: piece, by simp [pieces, hd, hrest], by simp⟩
      · refine (ih h).imp_right fun ⟨found, hfound, hc⟩ => ?_
        rw [hrest] at hfound
        rcases List.mem_cons.mp hfound with rfl | hfound
        · exact ⟨d :: found, by simp [pieces, hd, hrest], by simp [hc]⟩
        · exact ⟨found, by simp [pieces, hd, hrest, hfound], hc⟩

/-- All pieces are empty where every character is a delimiter. -/
theorem filter_pieces_eq_nil_iff {p : Char → Bool} {cs : List Char} :
    (pieces p cs).filter (!·.isEmpty) = [] ↔ cs.all p = true := by
  induction cs with
  | nil => simp [pieces]
  | cons c rest ih =>
    obtain ⟨piece, more, hrest⟩ := List.exists_cons_of_ne_nil (pieces_ne_nil p rest)
    cases hc : p c with
    | true => simpa [pieces, hc] using ih
    | false => simp [pieces, hc, hrest]

/-- Only blank text has no words. -/
theorem words_eq_nil_iff {s : String} : words s = [] ↔ isBlank s = true := by
  rw [words, List.map_eq_nil_iff, wordChars, filter_pieces_eq_nil_iff, isBlank]

/-- Words come apart again if none of them is empty or has a blank in it. -/
theorem words_intercalate {parts : List String}
    (h : ∀ part ∈ parts, part ≠ "" ∧ ∀ c ∈ part.toList, isBlankChar c = false) :
    words (" ".intercalate parts) = parts := by
  have hblank : isBlankChar ' ' = true := by decide
  have hspace : " ".toList = [' '] := rfl
  cases hparts : parts with
  | nil => rfl
  | cons first rest =>
    rw [← hparts]
    have hne : parts.map String.toList ≠ [] := by simp [hparts]
    have hchars : ∀ part ∈ parts.map String.toList, ∀ c ∈ part, isBlankChar c = false := by
      intro part hpart
      obtain ⟨text, htext, rfl⟩ := List.mem_map.mp hpart
      exact (h text htext).2
    have hfull : ∀ part ∈ parts.map String.toList, (!part.isEmpty) = true := by
      intro part hpart
      obtain ⟨text, htext, rfl⟩ := List.mem_map.mp hpart
      simpa using (h text htext).1
    rw [words, wordChars, String.toList_intercalate, hspace, pieces_intercalate hblank hne hchars,
      List.filter_eq_self.mpr hfull]
    simp

end DirectoryAuth.Text
