import DirectoryAuth.Text.Numeral
import DirectoryAuth.Toml.Trivia

/-! Strings and keys of TOML. -/
namespace DirectoryAuth.Toml

/-- The character with a code in hexadecimal. -/
def codeChar? (digits : Chars) : Option Char :=
  let n := Text.numeral 16 digits
  if digits.all Text.isHexDigit ∧ n.isValidChar then some (Char.ofNat n) else none

/-- The digits that follow the letter of an escape by code. -/
def codeLength? : Char → Option Nat
  | 'x' => some 2
  | 'u' => some 4
  | 'U' => some 8
  | _ => none

/-- The character that a letter after a backslash stands for. -/
def escaped? : Char → Option Char
  | 'b' => some '\x08'
  | 't' => some '\t'
  | 'n' => some '\n'
  | 'f' => some '\x0c'
  | 'r' => some '\r'
  | 'e' => some '\x1b'
  | '"' => some '"'
  | '\\' => some '\\'
  | _ => none

/-- The character that an escape writes, after its backslash. -/
def readEscape? : Chars → Option (Char × Chars)
  | [] => none
  | c :: rest =>
    match codeLength? c with
    | some n =>
      if n ≤ rest.length then (codeChar? (rest.take n)).map fun d => (d, rest.drop n) else none
    | none => (escaped? c).map fun d => (d, rest)

theorem length_of_readEscape? {cs rest : Chars} {c : Char} (h : readEscape? cs = some (c, rest)) :
    rest.length < cs.length := by
  cases cs with
  | nil => simp [readEscape?] at h
  | cons d more =>
    rw [readEscape?] at h
    split at h
    · split at h
      · obtain ⟨_, -, he⟩ := Option.map_eq_some_iff.1 h
        obtain ⟨-, rfl⟩ := Prod.mk.inj he
        rw [List.length_drop, List.length_cons]
        omega
      · simp at h
    · obtain ⟨_, -, he⟩ := Option.map_eq_some_iff.1 h
      obtain ⟨-, rfl⟩ := Prod.mk.inj he
      simp

/-- A string on one line, after its opening quotation mark. -/
def readBasic? (cs : Chars) : Option (Chars × Chars) :=
  match cs with
  | [] => none
  | '"' :: rest => some ([], rest)
  | '\\' :: rest =>
    match _h : readEscape? rest with
    | some (c, more) => (readBasic? more).map fun r => (c :: r.1, r.2)
    | none => none
  | c :: rest => if isControl c then none else (readBasic? rest).map fun r => (c :: r.1, r.2)
termination_by cs.length
decreasing_by
  · have := length_of_readEscape? _h
    simp only [List.length_cons]
    omega
  · simp

/-- A string on one line without escapes, after its opening apostrophe. -/
def readLiteral? : Chars → Option (Chars × Chars)
  | [] => none
  | c :: rest =>
    if c = '\'' then some ([], rest)
    else if isControl c then none
    else (readLiteral? rest).map fun r => (c :: r.1, r.2)

/-- Whether a backslash at this place continues the string on another line. -/
def continues (cs : Chars) : Bool :=
  match skipSpaces cs with
  | '\n' :: _ => true
  | '\r' :: '\n' :: _ => true
  | _ => false

def skipBlankLines : Chars → Chars
  | '\r' :: '\n' :: rest => skipBlankLines rest
  | c :: rest => if isSpace c || c == '\n' then skipBlankLines rest else c :: rest
  | [] => []

theorem length_skipBlankLines_le (cs : Chars) : (skipBlankLines cs).length ≤ cs.length := by
  fun_induction skipBlankLines cs <;> simp_all <;> omega

/-- The quotation marks at the end of a string of several lines. Of up to five, all but the last
three belong to the string. -/
def closing? (quote : Char) (cs : Chars) : Option (Chars × Chars) :=
  let n := min 5 (cs.takeWhile (· == quote)).length
  if 3 ≤ n then some (List.replicate (n - 3) quote, cs.drop n) else none

/-- A string of several lines, after its opening quotation marks and a line end there. Line ends
stay as they are written. -/
def readLong? (escapes : Bool) (quote : Char) (cs : Chars) : Option (Chars × Chars) :=
  match closing? quote cs with
  | some r => some r
  | none =>
    match cs with
    | [] => none
    | '\r' :: '\n' :: rest =>
      (readLong? escapes quote rest).map fun r => ('\r' :: '\n' :: r.1, r.2)
    | c :: rest =>
      if c = '\\' ∧ escapes then
        if continues rest then readLong? escapes quote (skipBlankLines rest)
        else
          match _h : readEscape? rest with
          | some (d, more) => (readLong? escapes quote more).map fun r => (d :: r.1, r.2)
          | none => none
      else if isControl c ∧ c ≠ '\n' then none
      else (readLong? escapes quote rest).map fun r => (c :: r.1, r.2)
termination_by cs.length
decreasing_by
  · simp only [List.length_cons]
    omega
  · have := length_skipBlankLines_le rest
    simp only [List.length_cons]
    omega
  · have := length_of_readEscape? _h
    simp only [List.length_cons]
    omega
  · simp

/-- Drops a line end at the start. -/
def dropLineEnd : Chars → Chars
  | '\n' :: rest => rest
  | '\r' :: '\n' :: rest => rest
  | cs => cs

def asString (r : Chars × Chars) : String × Chars := (String.ofList r.1, r.2)

def readString? : Chars → Option (String × Chars)
  | '"' :: '"' :: '"' :: rest => (readLong? true '"' (dropLineEnd rest)).map asString
  | '\'' :: '\'' :: '\'' :: rest => (readLong? false '\'' (dropLineEnd rest)).map asString
  | '"' :: rest => (readBasic? rest).map asString
  | '\'' :: rest => (readLiteral? rest).map asString
  | _ => none

/-! ### Keys -/

/-- A key has at most this many parts. -/
def maxKeyParts : Nat := 80

def isBareKeyChar (c : Char) : Bool := c.isAlphanum || c == '-' || c == '_'

/-- One part of a key: bare, or a string on one line. -/
def readKeyPart? (cs : Chars) : Option (String × Chars) :=
  match cs with
  | '"' :: rest => (readBasic? rest).map asString
  | '\'' :: rest => (readLiteral? rest).map asString
  | _ =>
    let bare := cs.takeWhile isBareKeyChar
    if bare = [] then none else some (String.ofList bare, cs.drop bare.length)

/-- A key, of at most `limit` parts with dots between them, and the spaces after it. -/
def readKey? (limit : Nat) (cs : Chars) : Option (List String × Chars) :=
  match limit with
  | 0 => none
  | limit + 1 => do
    let (part, rest) ← readKeyPart? (skipSpaces cs)
    match skipSpaces rest with
    | '.' :: more =>
      let (parts, rest) ← readKey? limit more
      pure (part :: parts, rest)
    | rest => pure ([part], rest)

end DirectoryAuth.Toml
