import DirectoryAuth.Text.CaseContext
import DirectoryAuth.Text.CaseMapping

/-! The full lower-case mapping of Unicode. A capital sigma at the end of a word becomes the final
form: a cased character stands before it and none after it, case-ignorable ones being skipped. -/
namespace DirectoryAuth.Text

/-- The lower-case form of a character without regard to its neighbours. Only U+0130 has more than
one character in it. -/
def lowercaseChar (c : Char) : List Char :=
  if c = '\u0130' then ['i', '\u0307'] else [Char.ofNat (lowercaseCode c.toNat)]

/-- The next character that is not case-ignorable exists and is cased. -/
def seesCased (cs : List Char) : Bool :=
  match cs.dropWhile isCaseIgnorable with
  | c :: _ => isCased c
  | [] => false

/-- The lower-case form of `cs` standing after the characters of `before`, the nearest first. -/
def lowercaseAfter (before : List Char) : List Char → List Char
  | [] => []
  | c :: rest =>
    (if c = 'Σ' then [if seesCased before && !seesCased rest then 'ς' else 'σ']
      else lowercaseChar c) ++ lowercaseAfter (c :: before) rest

def lowercaseChars (cs : List Char) : List Char := lowercaseAfter [] cs

def lowercase (s : String) : String := String.ofList (lowercaseChars s.toList)

end DirectoryAuth.Text
