import DirectoryAuth.Dn.Escape

/-! Tokens of a distinguished name. A scan from left to right carries one bit, whether an escape is
open; where it is closed, a comma cuts the text in two that are read apart. -/
namespace DirectoryAuth.Dn

/-- Whether an escape is open after a character. -/
def openAfter (isOpen : Bool) (c : Char) : Bool := !isOpen && c == '\\'

/-- Whether the scan of a text ends inside an escape. -/
def endsOpen (cs : List Char) : Bool := cs.foldl openAfter false

theorem endsOpen_cons {c : Char} (hc : c ≠ '\\') (rest : List Char) :
    endsOpen (c :: rest) = endsOpen rest := by
  simp [endsOpen, openAfter, beq_false_of_ne hc]

theorem endsOpen_escaped (c : Char) (rest : List Char) :
    endsOpen ('\\' :: c :: rest) = endsOpen rest := by
  simp [endsOpen, openAfter]

theorem tokens_cons {c : Char} (hc : c ≠ '\\') (hcomma : c ≠ ',') (rest : List Char) :
    tokens (c :: rest) = prependToken [c] (tokens rest) := by
  rw [tokens]
  · exact fun _ _ h _ => hc h
  · exact hcomma

theorem prependToken_ne_nil (cs : List Char) (list : List (List Char)) :
    prependToken cs list ≠ [] := by
  cases list with
  | nil => exact List.cons_ne_nil _ _
  | cons token more => exact List.cons_ne_nil _ _

theorem tokens_ne_nil (cs : List Char) : tokens cs ≠ [] := by
  rw [tokens.eq_def]
  split
  · exact prependToken_ne_nil _ _
  · exact List.cons_ne_nil _ _
  · exact prependToken_ne_nil _ _
  · exact List.cons_ne_nil _ _

theorem prependToken_append (cs : List Char) {list : List (List Char)} (h : list ≠ [])
    (more : List (List Char)) : prependToken cs (list ++ more) = prependToken cs list ++ more := by
  cases list with
  | nil => contradiction
  | cons token rest => rfl

/-- A comma outside an escape separates the tokens before it from those after it. -/
theorem tokens_append_comma {s : List Char} (h : endsOpen s = false) (t : List Char) :
    tokens (s ++ ',' :: t) = tokens s ++ tokens t := by
  induction s using tokens.induct with
  | case1 c rest ih =>
    rw [endsOpen_escaped] at h
    rw [List.cons_append, List.cons_append, tokens, tokens, ih h,
      prependToken_append _ (tokens_ne_nil rest)]
  | case2 rest ih =>
    rw [endsOpen_cons (by decide)] at h
    rw [List.cons_append, tokens, tokens, ih h, List.cons_append]
  | case3 c rest hescape hcomma ih =>
    have hc : c ≠ '\\' := by
      rintro rfl
      cases rest with
      | nil => contradiction
      | cons d rest => exact hescape d rest rfl rfl
    rw [endsOpen_cons hc] at h
    rw [List.cons_append, tokens_cons hc hcomma, tokens_cons hc hcomma, ih h,
      prependToken_append _ (tokens_ne_nil rest)]
  | case4 => rfl

/-- A text that is one token and ends outside an escape. -/
structure IsToken (cs : List Char) : Prop where
  tokens_eq : tokens cs = [cs]
  closed : endsOpen cs = false

theorem isToken_nil : IsToken [] := ⟨rfl, rfl⟩

theorem IsToken.cons {cs : List Char} (h : IsToken cs) {c : Char} (hc : c ≠ '\\')
    (hcomma : c ≠ ',') : IsToken (c :: cs) := by
  refine ⟨?_, (endsOpen_cons hc cs).trans h.closed⟩
  rw [tokens_cons hc hcomma, h.tokens_eq]
  rfl

theorem IsToken.escaped {cs : List Char} (h : IsToken cs) (c : Char) :
    IsToken ('\\' :: c :: cs) := by
  refine ⟨?_, (endsOpen_escaped c cs).trans h.closed⟩
  rw [tokens, h.tokens_eq]
  rfl

theorem IsToken.append {cs : List Char} (h : IsToken cs) {before : List Char}
    (hescape : '\\' ∉ before) (hcomma : ',' ∉ before) : IsToken (before ++ cs) := by
  induction before with
  | nil => exact h
  | cons c rest ih =>
    rw [List.mem_cons, not_or] at hescape hcomma
    exact (ih hescape.2 hcomma.2).cons (Ne.symm hescape.1) (Ne.symm hcomma.1)

/-- An escaped value has no comma to be cut at and leaves no escape open. -/
theorem isToken_escape (cs : List Char) : IsToken (escape cs) := by
  induction cs with
  | nil => exact isToken_nil
  | cons c rest ih =>
    rw [escape, List.flatMap_cons, ← escape, escapeChar]
    split
    · exact ih.escaped c
    · next h =>
      rw [not_or] at h
      exact ih.cons h.1 h.2

/-- Tokens that have been joined come apart again. -/
theorem tokens_joinTokens {list : List (List Char)} (hne : list ≠ [])
    (h : ∀ token ∈ list, IsToken token) : tokens (joinTokens list) = list := by
  induction list with
  | nil => contradiction
  | cons token more ih =>
    have htoken := h token List.mem_cons_self
    cases more with
    | nil => exact htoken.tokens_eq
    | cons next rest =>
      rw [joinTokens, tokens_append_comma htoken.closed, htoken.tokens_eq,
        ih (List.cons_ne_nil _ _) fun t ht => h t (List.mem_cons_of_mem _ ht)]
      · rfl
      · exact fun e => List.cons_ne_nil _ _ e

theorem joinTokens_eq_nil_iff {list : List (List Char)} (h : ∀ token ∈ list, token ≠ []) :
    joinTokens list = [] ↔ list = [] := by
  cases list with
  | nil => exact ⟨fun _ => rfl, fun _ => rfl⟩
  | cons token more =>
    have htoken := h token List.mem_cons_self
    cases more with
    | nil => simp [joinTokens, htoken]
    | cons next rest => simp [joinTokens]

end DirectoryAuth.Dn
