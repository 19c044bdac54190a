import DirectoryAuth.Proofs.Text.AsciiCase
import DirectoryAuth.Url.Basic

/-! The scheme of a URL. A scheme of the web apart, a text that begins with a scheme and a colon is
a URL, unless two slashes follow: only then a host has to be read. -/
namespace DirectoryAuth.Url
open Text (asciiLowerChar asciiLowerChar_eq_iff apply_asciiLowerChar)

/-- The part of a text that counts begins with a word, whatever the case of ASCII letters. -/
def BeginsWith (word s : String) : Prop :=
  word.toList <+: (significant s).map asciiLowerChar

instance (word s : String) : Decidable (BeginsWith word s) :=
  inferInstanceAs (Decidable (_ <+: _))

/-- A letter, and then letters, digits and a few signs. -/
def isSchemeName : List Char → Bool
  | [] => false
  | c :: rest => c.isAlpha && rest.all isSchemeChar

theorem isSchemeName_map_asciiLowerChar (word : List Char) :
    isSchemeName (word.map asciiLowerChar) = isSchemeName word := by
  cases word with
  | nil => rfl
  | cons c rest =>
    have halpha : (asciiLowerChar c).isAlpha = c.isAlpha :=
      apply_asciiLowerChar Char.isAlpha (by decide) c
    have hrest : isSchemeChar ∘ asciiLowerChar = isSchemeChar :=
      funext (apply_asciiLowerChar isSchemeChar (by decide))
    rw [List.map_cons, isSchemeName, isSchemeName, halpha, List.all_map, hrest]

theorem colon_not_mem_of_isSchemeName {word : List Char} (h : isSchemeName word = true) :
    ':' ∉ word := by
  cases word with
  | nil => exact List.not_mem_nil
  | cons c rest =>
    rw [isSchemeName, Bool.and_eq_true] at h
    rintro hmem
    rcases List.mem_cons.mp hmem with rfl | hmem
    · exact absurd h.1 (by decide)
    · exact absurd (List.all_eq_true.mp h.2 ':' hmem) (by decide)

/-- The scheme stands before the first colon. -/
theorem cutScheme?_eq_some_iff {cs rest : List Char} {scheme : String} :
    cutScheme? cs = some (scheme, rest) ↔ ∃ word, cs = word ++ ':' :: rest ∧
      isSchemeName word = true ∧ word.map asciiLowerChar = scheme.toList := by
  constructor
  · intro h
    rw [cutScheme?] at h
    split at h
    · next c word after hcut =>
      split at h
      · next hname =>
        obtain ⟨rfl, rfl⟩ := Prod.mk.inj (Option.some.inj h)
        exact ⟨c :: word, (Text.eq_append_of_cutAt? hcut).1, hname, String.toList_ofList.symm⟩
      · contradiction
    · contradiction
  · rintro ⟨word, rfl, hname, hscheme⟩
    rw [cutScheme?, Text.cutAt?_append ':' (colon_not_mem_of_isSchemeName hname)]
    cases word with
    | nil => contradiction
    | cons c more =>
      have hchars : (c.isAlpha && more.all isSchemeChar) = true := hname
      simp only [hchars, if_true, hscheme, String.ofList_toList]

theorem asciiLowerChar_eq_iff_of_not_isAlpha {d : Char} (h : d.isAlpha = false) (c : Char) :
    asciiLowerChar c = d ↔ c = d := by
  have hletters : ∀ i < 26,
      (Char.ofNat (i + 97)).isAlpha = true ∧ (Char.ofNat (i + 65)).isAlpha = true := by decide
  have hne {letter : Char} (hletter : letter.isAlpha = true) : (letter == d) = false :=
    beq_false_of_ne fun heq => absurd (heq ▸ hletter) (by simp [h])
  apply asciiLowerChar_eq_iff
  intro i hi
  rw [hne (hletters i hi).1, hne (hletters i hi).2]

/-- Characters that are no letters come from themselves only. -/
theorem map_asciiLowerChar_eq_iff {marks : List Char} (h : marks.any Char.isAlpha = false)
    {cs : List Char} : cs.map asciiLowerChar = marks ↔ cs = marks := by
  induction marks generalizing cs with
  | nil => exact List.map_eq_nil_iff
  | cons d marks ih =>
    rw [List.any_cons, Bool.or_eq_false_iff] at h
    have hd := asciiLowerChar_eq_iff_of_not_isAlpha h.1
    have hmarks : ∀ rest : List Char, rest.map asciiLowerChar = marks ↔ rest = marks :=
      fun _ => ih h.2
    simp only [List.map_eq_cons_iff, hd, hmarks]
    constructor
    · rintro ⟨c, rest, rfl, rfl, rfl⟩
      rfl
    · rintro rfl
      exact ⟨d, marks, rfl, rfl, rfl⟩

section
variable {s name : String}

theorem beginsWith_append_iff {marks : String} (h : marks.toList.any Char.isAlpha = false) :
    BeginsWith (name ++ marks) s ↔ ∃ word rest,
      significant s = word ++ (marks.toList ++ rest) ∧ word.map asciiLowerChar = name.toList := by
  rw [BeginsWith, String.toList_append]
  constructor
  · rintro ⟨after, hafter⟩
    rw [List.append_assoc] at hafter
    obtain ⟨word, more, hs, hword, hmore⟩ := List.map_eq_append_iff.mp hafter.symm
    obtain ⟨found, rest, rfl, hfound, -⟩ := List.map_eq_append_iff.mp hmore
    rw [map_asciiLowerChar_eq_iff h] at hfound
    exact ⟨word, rest, hfound ▸ hs, hword⟩
  · rintro ⟨word, rest, hs, hword⟩
    refine ⟨rest.map asciiLowerChar, ?_⟩
    rw [hs, List.map_append, List.map_append, hword, (map_asciiLowerChar_eq_iff h).mpr rfl,
      List.append_assoc]

theorem checkRest_other_of_not_slashes {rest : List Char}
    (h : ∀ more, rest ≠ '/' :: '/' :: more) : checkRest .other rest = .ok () := by
  rw [checkRest]
  exact h

theorem scheme_eq_ok_iff : scheme s = .ok name ↔ ∃ word rest,
    significant s = word ++ ':' :: rest ∧ isSchemeName word = true ∧
      word.map asciiLowerChar = name.toList ∧ checkRest (.of name) rest = .ok () := by
  rw [scheme]
  constructor
  · intro h
    split at h
    · next found rest hcut =>
      obtain ⟨word, hs, hname, hword⟩ := cutScheme?_eq_some_iff.mp hcut
      cases hrest : checkRest (.of found) rest with
      | error e => rw [hrest] at h; contradiction
      | ok _ =>
        rw [hrest] at h
        obtain rfl : found = name := Except.ok.inj h
        exact ⟨word, rest, hs, hname, hword, hrest⟩
    · contradiction
  · rintro ⟨word, rest, hs, hname, hword, hrest⟩
    rw [cutScheme?_eq_some_iff.mpr ⟨word, hs, hname, hword⟩]
    simp only [hrest]
    rfl

/-- A text with a scheme that is not of the web is a URL unless it has two slashes after the
colon. -/
theorem scheme_eq_ok_iff_beginsWith (hname : isSchemeName name.toList = true)
    (hkind : SchemeKind.of name = .other) : scheme s = .ok name ↔ BeginsWith (name ++ ":") s ∧
      (BeginsWith (name ++ "://") s → ∃ found, scheme s = .ok found) := by
  rw [beginsWith_append_iff (by decide), beginsWith_append_iff (by decide)]
  constructor
  · intro h
    obtain ⟨word, rest, hs, -, hword, -⟩ := scheme_eq_ok_iff.mp h
    exact ⟨⟨word, rest, hs, hword⟩, fun _ => ⟨name, h⟩⟩
  · rintro ⟨⟨word, rest, hs, hword⟩, hslashes⟩
    have hletters : isSchemeName word = true := by
      rw [← isSchemeName_map_asciiLowerChar, hword, hname]
    have hcut := cutScheme?_eq_some_iff.mpr ⟨word, hs, hletters, hword⟩
    by_cases hmore : ∃ more, rest = '/' :: '/' :: more
    · obtain ⟨more, rfl⟩ := hmore
      obtain ⟨found, hfound⟩ := hslashes ⟨word, more, hs, hword⟩
      obtain ⟨word', rest', hs', hletters', hword', -⟩ := scheme_eq_ok_iff.mp hfound
      have hcut' := cutScheme?_eq_some_iff.mpr ⟨word', hs', hletters', hword'⟩
      obtain ⟨rfl, -⟩ := Prod.mk.inj (Option.some.inj (hcut'.symm.trans hcut))
      exact hfound
    · refine scheme_eq_ok_iff.mpr ⟨word, rest, hs, hletters, hword, ?_⟩
      rw [hkind]
      exact checkRest_other_of_not_slashes fun more hrest => hmore ⟨more, hrest⟩

end

theorem mem_of_mem_significant {s : String} {c : Char} (h : c ∈ significant s) : c ∈ s.toList := by
  have hend := (List.dropWhile_sublist _).mem (List.mem_reverse.mp (List.mem_filter.mp h).1)
  exact (List.dropWhile_sublist _).mem (List.mem_reverse.mp hend)

/-- A URL has a colon, which is not blank. -/
theorem isBlank_eq_false_of_scheme {s name : String} (h : scheme s = .ok name) :
    Text.isBlank s = false := by
  obtain ⟨word, rest, hs, -, -, -⟩ := scheme_eq_ok_iff.mp h
  have hcolon : ':' ∈ s.toList := mem_of_mem_significant (by simp [hs])
  rw [Text.isBlank, List.all_eq_false]
  exact ⟨':', hcolon, by decide⟩

end DirectoryAuth.Url
