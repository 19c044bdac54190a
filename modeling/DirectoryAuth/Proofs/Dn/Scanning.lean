import DirectoryAuth.Proofs.Dn.LetterCase

/-! The scan for commas and the scan for escapes. Tokens are cut by one scan of the whole text, and
values are read by another that starts anew after the first equals sign of a token. An equals sign
leaves no escape open, whatever stands before it, so both scans see the same escapes; and an escape
that nothing follows can only stand where the text ends. -/
namespace DirectoryAuth.Dn

/-- Every comma is taken by an escape that is open before it. -/
def CommasEscaped (cs : List Char) : Prop :=
  ∀ before after, cs = before ++ ',' :: after → endsOpen before = true

/-- The ways to cut a text, first token first: where a comma follows, the token before it is
closed. -/
inductive Cut : List Char → List (List Char) → Prop
  | last {cs : List Char} (commas : CommasEscaped cs) : Cut cs [cs]
  | next {token rest : List Char} {more : List (List Char)} (commas : CommasEscaped token)
      (closed : endsOpen token = false) (others : Cut rest more) :
      Cut (token ++ ',' :: rest) (token :: more)

/-- A text is one token, or a token, a comma and the tokens of what follows. -/
theorem tokens_cases (cs : List Char) : tokens cs = [cs] ∨
    ∃ token rest, IsToken token ∧ cs = token ++ ',' :: rest ∧ tokens cs = token :: tokens rest := by
  induction cs using tokens.induct with
  | case1 c rest ih =>
    rw [tokens]
    rcases ih with h | ⟨token, more, htoken, rfl, h⟩
    · rw [h]
      exact .inl rfl
    · rw [h]
      exact .inr ⟨'\\' :: c :: token, more, htoken.escaped c, rfl, rfl⟩
  | case2 rest ih => exact .inr ⟨[], rest, isToken_nil, rfl, by rw [tokens]⟩
  | case3 c rest hescape hcomma ih =>
    by_cases hc : c = '\\'
    · subst hc
      cases rest with
      | nil => exact .inl rfl
      | cons d rest => exact absurd rfl (hescape d rest rfl)
    · rw [tokens_cons hc hcomma]
      rcases ih with h | ⟨token, more, htoken, rfl, h⟩
      · rw [h]
        exact .inl rfl
      · rw [h]
        exact .inr ⟨c :: token, more, htoken.cons hc hcomma, rfl, rfl⟩
  | case4 => exact .inl rfl

theorem tokens_eq_singleton_iff {cs : List Char} : tokens cs = [cs] ↔ CommasEscaped cs := by
  constructor
  · rintro h before after rfl
    cases hopen : endsOpen before with
    | true => rfl
    | false =>
      rw [tokens_append_comma hopen] at h
      have hbefore := List.length_pos_iff.mpr (tokens_ne_nil before)
      have hafter := List.length_pos_iff.mpr (tokens_ne_nil after)
      have hlength := congrArg List.length h
      rw [List.length_append, List.length_singleton] at hlength
      omega
  · intro h
    rcases tokens_cases cs with hone | ⟨token, rest, htoken, hcs, -⟩
    · exact hone
    · have hopen := h token rest hcs
      rw [htoken.closed] at hopen
      contradiction

theorem cut_tokens (cs : List Char) : Cut cs (tokens cs) := by
  induction hlist : tokens cs generalizing cs with
  | nil => exact absurd hlist (tokens_ne_nil cs)
  | cons token more ih =>
    rcases tokens_cases cs with h | ⟨first, rest, hfirst, rfl, h⟩
    · obtain ⟨rfl, rfl⟩ := List.cons.inj (h.symm.trans hlist)
      exact .last (tokens_eq_singleton_iff.mp h)
    · obtain ⟨rfl, rfl⟩ := List.cons.inj (h.symm.trans hlist)
      exact .next (tokens_eq_singleton_iff.mp hfirst.tokens_eq) hfirst.closed (ih rest rfl)

namespace Cut
variable {cs : List Char} {list : List (List Char)}

theorem tokens_eq (h : Cut cs list) : tokens cs = list := by
  induction h with
  | last commas => exact tokens_eq_singleton_iff.mpr commas
  | next commas closed _ ih =>
    rw [tokens_append_comma closed, tokens_eq_singleton_iff.mpr commas, ih]
    rfl

theorem ne_nil (h : Cut cs list) : list ≠ [] := by
  cases h <;> exact List.cons_ne_nil _ _

/-- Nothing but the commas between the tokens is lost. -/
theorem joinTokens_eq (h : Cut cs list) : joinTokens list = cs := by
  induction h with
  | last => rfl
  | next _ _ others ih =>
    obtain ⟨next, more, rfl⟩ := List.exists_cons_of_ne_nil others.ne_nil
    rw [joinTokens, ih]
    exact List.cons_ne_nil _ _

theorem commasEscaped (h : Cut cs list) {token : List Char} (htoken : token ∈ list) :
    CommasEscaped token := by
  induction h with
  | last commas =>
    obtain rfl := List.mem_singleton.mp htoken
    exact commas
  | next commas _ _ ih =>
    rcases List.mem_cons.mp htoken with rfl | hmore
    · exact commas
    · exact ih hmore

theorem closed_of_mem_dropLast (h : Cut cs list) {token : List Char}
    (htoken : token ∈ list.dropLast) : endsOpen token = false := by
  induction h with
  | last => contradiction
  | next _ closed others ih =>
    rw [List.dropLast_cons_of_ne_nil others.ne_nil, List.mem_cons] at htoken
    rcases htoken with rfl | hmore
    · exact closed
    · exact ih hmore

/-- Only the last token can end inside an escape. -/
theorem getLast?_of_endsOpen (h : Cut cs list) {token : List Char} (htoken : token ∈ list)
    (hopen : endsOpen token = true) : list.getLast? = some token := by
  rw [← List.dropLast_concat_getLast h.ne_nil, List.mem_append, List.mem_singleton] at htoken
  rcases htoken with hmem | rfl
  · rw [h.closed_of_mem_dropLast hmem] at hopen
    contradiction
  · exact List.getLast?_eq_some_getLast h.ne_nil

/-- The text ends where its last token ends. -/
theorem suffix_of_getLast? (h : Cut cs list) {token : List Char}
    (htoken : list.getLast? = some token) : token <:+ cs := by
  induction h with
  | last =>
    obtain rfl := Option.some.inj htoken
    exact List.suffix_rfl
  | next _ _ others ih =>
    rw [List.getLast?_cons_of_ne_nil others.ne_nil] at htoken
    exact (ih htoken).trans ((List.suffix_cons _ _).trans (List.suffix_append _ _))

end Cut

/-- A text is cut in one way only. -/
theorem cut_iff {cs : List Char} {list : List (List Char)} : Cut cs list ↔ tokens cs = list :=
  ⟨Cut.tokens_eq, fun h => h ▸ cut_tokens cs⟩

/-- Reading a value: every backslash that is not escaped itself takes the character after it, which
is there. -/
inductive Unescapes : List Char → List Char → Prop
  | nil : Unescapes [] []
  | plain {c : Char} {cs out : List Char} (hc : c ≠ '\\') (rest : Unescapes cs out) :
      Unescapes (c :: cs) (c :: out)
  | escaped (c : Char) {cs out : List Char} (rest : Unescapes cs out) :
      Unescapes ('\\' :: c :: cs) (c :: out)

theorem Unescapes.unescape_eq {cs out : List Char} (h : Unescapes cs out) :
    endsOpen cs = false ∧ unescape cs = out := by
  induction h with
  | nil => exact ⟨rfl, rfl⟩
  | plain hc _ ih => rwa [endsOpen_cons hc, unescape_cons hc, List.cons_inj_right]
  | escaped c _ ih => rwa [endsOpen_escaped, unescape, List.cons_inj_right]

theorem unescapes_unescape {cs : List Char} (h : endsOpen cs = false) :
    Unescapes cs (unescape cs) := by
  induction cs using unescape.induct with
  | case1 c rest ih =>
    rw [endsOpen_escaped] at h
    rw [unescape]
    exact .escaped c (ih h)
  | case2 c rest hescape ih =>
    have hc : c ≠ '\\' := by
      rintro rfl
      cases rest with
      | nil => contradiction
      | cons d rest => exact hescape d rest rfl rfl
    rw [endsOpen_cons hc] at h
    rw [unescape_cons hc]
    exact .plain hc (ih h)
  | case3 => exact .nil

theorem unescapes_iff {cs out : List Char} :
    Unescapes cs out ↔ endsOpen cs = false ∧ unescape cs = out :=
  ⟨Unescapes.unescape_eq, fun ⟨h, hout⟩ => hout ▸ unescapes_unescape h⟩

/-- An escape that is open at the end is one backslash, which nothing follows and which is kept. -/
theorem exists_of_endsOpen {cs : List Char} (h : endsOpen cs = true) :
    ∃ front, cs = front ++ ['\\'] ∧ endsOpen front = false ∧
      unescape cs = unescape front ++ ['\\'] := by
  induction cs using unescape.induct with
  | case1 c rest ih =>
    rw [endsOpen_escaped] at h
    obtain ⟨front, rfl, hclosed, hkept⟩ := ih h
    refine ⟨'\\' :: c :: front, rfl, (endsOpen_escaped c front).trans hclosed, ?_⟩
    rw [unescape, hkept, unescape, List.cons_append]
  | case2 c rest hescape ih =>
    by_cases hc : c = '\\'
    · subst hc
      cases rest with
      | nil => exact ⟨[], rfl, rfl, rfl⟩
      | cons d rest => exact absurd rfl (hescape d rest rfl)
    · rw [endsOpen_cons hc] at h
      obtain ⟨front, rfl, hclosed, hkept⟩ := ih h
      refine ⟨c :: front, rfl, (endsOpen_cons hc front).trans hclosed, ?_⟩
      rw [unescape_cons hc, hkept, unescape_cons hc, List.cons_append]
  | case3 => contradiction

/-- A character other than a backslash leaves no escape open, whether it is escaped or not: a scan
that starts after it sees the same escapes. -/
theorem endsOpen_append_cons {c : Char} (hc : c ≠ '\\') (before after : List Char) :
    endsOpen (before ++ c :: after) = endsOpen after := by
  simp [endsOpen, List.foldl_append, openAfter, beq_false_of_ne hc]

section
variable {token name value : List Char} (h : Text.cutAt? '=' token = some (name, value))
include h

theorem endsOpen_of_cutAt? : endsOpen token = endsOpen value := by
  rw [(Text.eq_append_of_cutAt? h).1, endsOpen_append_cons (by decide)]

theorem suffix_of_cutAt? : value <:+ token := by
  rw [(Text.eq_append_of_cutAt? h).1]
  exact (List.suffix_cons '=' value).trans (List.suffix_append _ _)

end

/-- Both scans see the same escapes. Every comma in a token is escaped, every token but the last
ends outside an escape, and so does its value, so that each backslash of it takes a character. A
backslash that is kept because nothing follows it is the last character of the text. -/
theorem tokens_unescape_in_step (s : String) :
    joinTokens (tokens s.toList) = s.toList ∧
    (∀ token ∈ tokens s.toList, CommasEscaped token) ∧
    (∀ token ∈ (tokens s.toList).dropLast, endsOpen token = false ∧
      ∀ name value, Text.cutAt? '=' token = some (name, value) →
        Unescapes value (unescape value)) ∧
    ∀ token ∈ tokens s.toList, ∀ name value, Text.cutAt? '=' token = some (name, value) →
      ¬Unescapes value (unescape value) →
        (tokens s.toList).getLast? = some token ∧ value <:+ s.toList ∧
          ∃ front, value = front ++ ['\\'] ∧ Unescapes front (unescape front) ∧
            unescape value = unescape front ++ ['\\'] := by
  have hcut := cut_iff.mpr (rfl : tokens s.toList = _)
  refine ⟨hcut.joinTokens_eq, fun _ => hcut.commasEscaped, ?_, ?_⟩
  · intro token htoken
    have hclosed := hcut.closed_of_mem_dropLast htoken
    refine ⟨hclosed, fun name value h => unescapes_iff.mpr ⟨?_, rfl⟩⟩
    rw [← endsOpen_of_cutAt? h, hclosed]
  · intro token htoken name value h hdangling
    have hopen : endsOpen value = true :=
      eq_true_of_ne_false fun hclosed => hdangling (unescapes_iff.mpr ⟨hclosed, rfl⟩)
    have hlast := hcut.getLast?_of_endsOpen htoken ((endsOpen_of_cutAt? h).trans hopen)
    obtain ⟨front, hfront, hclosed, hkept⟩ := exists_of_endsOpen hopen
    exact ⟨hlast, (suffix_of_cutAt? h).trans (hcut.suffix_of_getLast? hlast), front, hfront,
      unescapes_iff.mpr ⟨hclosed, rfl⟩, hkept⟩

/-- A backslash before the equals sign, an escaped comma, and a backslash at the very end. -/
example : tokens "a\\=b\\,c,d=\\".toList = ["a\\=b\\,c".toList, "d=\\".toList] ∧
    unescape "b\\,c".toList = "b,c".toList ∧ unescape "\\".toList = "\\".toList := by
  decide

end DirectoryAuth.Dn
