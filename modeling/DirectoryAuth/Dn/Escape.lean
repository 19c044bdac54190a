/-! Escaping inside a distinguished name: a backslash stands before every comma and backslash of a
value, and the components are separated by the commas that are not escaped. -/
namespace DirectoryAuth.Dn

def escapeChar (c : Char) : List Char := if c = '\\' ∨ c = ',' then ['\\', c] else [c]

def escape (cs : List Char) : List Char := cs.flatMap escapeChar

/-- Drops the backslash before each escaped character; one that nothing follows is kept. -/
def unescape : List Char → List Char
  | '\\' :: c :: rest => c :: unescape rest
  | c :: rest => c :: unescape rest
  | [] => []

theorem unescape_escape (cs : List Char) : unescape (escape cs) = cs := by
  induction cs with
  | nil => rfl
  | cons c rest ih =>
    rw [escape, List.flatMap_cons, ← escape]
    by_cases h : c = '\\' ∨ c = ','
    · simp [escapeChar, h, unescape, ih]
    · have hc : c ≠ '\\' := fun e => h (.inl e)
      simp only [escapeChar, h, if_false, List.singleton_append]
      rw [unescape, ih]
      exact fun _ _ e _ => hc e

/-- Puts characters in front of the first token. -/
def prependToken (cs : List Char) : List (List Char) → List (List Char)
  | [] => [cs]
  | token :: more => (cs ++ token) :: more

/-- The pieces between the commas that are not escaped; there is always at least one. -/
def tokens : List Char → List (List Char)
  | '\\' :: c :: rest => prependToken ['\\', c] (tokens rest)
  | ',' :: rest => [] :: tokens rest
  | c :: rest => prependToken [c] (tokens rest)
  | [] => [[]]

/-- The tokens with a comma between each two. -/
def joinTokens : List (List Char) → List Char
  | [] => []
  | [token] => token
  | token :: more => token ++ ',' :: joinTokens more

end DirectoryAuth.Dn
