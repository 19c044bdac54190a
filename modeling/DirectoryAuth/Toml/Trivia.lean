/-! What a TOML document may hold between its keys and values: spaces, line ends, comments. A reader
takes the characters that are left and gives what it has read and the rest. -/
namespace DirectoryAuth.Toml

abbrev Chars := List Char

def isSpace (c : Char) : Bool := c == ' ' || c == '\t'

/-- Controls other than the tab, which stand neither in comments nor in strings. -/
def isControl (c : Char) : Bool := (c.toNat < 0x20 && c != '\t') || c.toNat == 0x7F

def skipSpaces (cs : Chars) : Chars := cs.dropWhile isSpace

/-- Passes over spaces, line ends and comments. -/
def skipTrivia (inComment : Bool) : Chars → Option Chars
  | [] => some []
  | '\r' :: '\n' :: rest => skipTrivia false rest
  | c :: rest =>
    if c = '\n' then skipTrivia false rest
    else if inComment then if isControl c then none else skipTrivia true rest
    else if isSpace c then skipTrivia false rest
    else if c = '#' then skipTrivia true rest
    else some (c :: rest)

/-- Passes over the rest of a line, in which nothing but spaces and a comment may stand. -/
def skipLine (inComment : Bool) : Chars → Option Chars
  | [] => some []
  | '\r' :: '\n' :: rest => some rest
  | c :: rest =>
    if c = '\n' then some rest
    else if inComment then if isControl c then none else skipLine true rest
    else if isSpace c then skipLine false rest
    else if c = '#' then skipLine true rest
    else none

end DirectoryAuth.Toml
