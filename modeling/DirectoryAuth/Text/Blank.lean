import DirectoryAuth.Text.Split

/-! Blank characters (the Unicode property White_Space), and the trimming and splitting of text
at them. -/
namespace DirectoryAuth.Text

/-- The characters with the property White_Space. -/
def isBlankChar (c : Char) : Bool :=
  let n := c.toNat
  (0x9 ≤ n && n ≤ 0xD) || n == 0x20 || n == 0x85 || n == 0xA0 || n == 0x1680 ||
    (0x2000 ≤ n && n ≤ 0x200A) || n == 0x2028 || n == 0x2029 || n == 0x202F || n == 0x205F ||
    n == 0x3000

def trimStart (cs : List Char) : List Char := cs.dropWhile isBlankChar

def trimEnd (cs : List Char) : List Char := (cs.reverse.dropWhile isBlankChar).reverse

/-- The characters without the blanks at either end. -/
def trimChars (cs : List Char) : List Char := trimEnd (trimStart cs)

def trim (s : String) : String := String.ofList (trimChars s.toList)

/-- Empty, or blank characters only. -/
def isBlank (s : String) : Bool := s.toList.all isBlankChar

/-- The maximal runs of characters that are not blank. -/
def wordChars (cs : List Char) : List (List Char) :=
  (pieces isBlankChar cs).filter (!·.isEmpty)

def words (s : String) : List String := (wordChars s.toList).map String.ofList

end DirectoryAuth.Text
