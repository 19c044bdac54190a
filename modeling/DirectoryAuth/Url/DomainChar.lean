import DirectoryAuth.Text.AsciiCase
import DirectoryAuth.Text.Lowercase
import DirectoryAuth.Text.Printable
import DirectoryAuth.Url.DomainImage

/-! What the characters of a domain name stand for: most of them for themselves, capitals for their
small forms, and some for nothing. -/
namespace DirectoryAuth.Url

/-- Code points that a domain name is read without. -/
def ignoredRanges : List (Nat × Nat) :=
  [(0xAD, 0xAD), (0x34F, 0x34F), (0x115F, 0x1160), (0x17B4, 0x17B5), (0x180B, 0x180F),
   (0x200B, 0x200B), (0x2060, 0x2064), (0x206A, 0x206F), (0x3164, 0x3164), (0xFE00, 0xFE0F),
   (0xFEFF, 0xFEFF), (0xFFA0, 0xFFA0), (0x1BCA0, 0x1BCA3), (0x1D173, 0x1D17A), (0xE0100, 0xE01EF)]

/-- Printable code points that no domain name holds, and those that stand for such. -/
def excludedRanges : List (Nat × Nat) :=
  [(0xA8, 0xA8), (0xAF, 0xAF), (0xB4, 0xB4), (0xB8, 0xB8), (0x2D8, 0x2DD), (0x37A, 0x37A),
   (0x384, 0x385), (0x1FBD, 0x1FBD), (0x1FBF, 0x1FC1), (0x1FCD, 0x1FCF), (0x1FDD, 0x1FDF),
   (0x1FED, 0x1FEE), (0x1FFD, 0x1FFE), (0x2017, 0x2017), (0x2024, 0x2026), (0x203E, 0x203E),
   (0x2047, 0x2049), (0x2100, 0x2101), (0x2105, 0x2106), (0x2488, 0x249B), (0x2A74, 0x2A74),
   (0x2FF0, 0x2FFF), (0x309B, 0x309C), (0x31EF, 0x31EF), (0x33C2, 0x33C2), (0x33C7, 0x33C7),
   (0x33D8, 0x33D8), (0xFC5E, 0xFC63), (0xFDFA, 0xFDFB), (0xFE12, 0xFE13), (0xFE16, 0xFE16),
   (0xFE19, 0xFE19), (0xFE30, 0xFE30), (0xFE47, 0xFE4C), (0xFE52, 0xFE52), (0xFE55, 0xFE56),
   (0xFE5F, 0xFE5F), (0xFE68, 0xFE68), (0xFE6A, 0xFE6B), (0xFE70, 0xFE70), (0xFE72, 0xFE72),
   (0xFE74, 0xFE74), (0xFE76, 0xFE76), (0xFE78, 0xFE78), (0xFE7A, 0xFE7A), (0xFE7C, 0xFE7C),
   (0xFE7E, 0xFE7E), (0xFFE3, 0xFFE3), (0xFFFC, 0xFFFD), (0x1F100, 0x1F100)]

/-- The joiner and the non-joiner, which have no width themselves. -/
def isJoiner (c : Char) : Bool := c == '\u200c' || c == '\u200d'

def isExcluded (c : Char) : Bool :=
  (Text.inRanges Text.unprintableRanges c.toNat && !isJoiner c) ||
    Text.inRanges excludedRanges c.toNat

/-- Characters of ASCII in full width, in the order of ASCII. -/
def isFullWidth (c : Char) : Bool := '\uff01' ≤ c && c ≤ '\uff5e'

/-- Capitals of Cherokee, for which their small forms stand. -/
def isCherokeeCapital (c : Char) : Bool := '\u13a0' ≤ c && c ≤ '\u13f5'

/-- What a character of a domain name stands for, unless no domain name holds it. -/
def domainText? (c : Char) : Option (List Char) :=
  if c.toNat < 128 then some [Text.asciiLowerChar c]
  else if isFullWidth c then some [Text.asciiLowerChar (Char.ofNat (c.toNat - 0xFEE0))]
  else if Text.inRanges ignoredRanges c.toNat then some []
  else
    match image? c.toNat with
    | some text => some text
    | none =>
      if isExcluded c then none
      else if isCherokeeCapital c then some [c]
      else some (Text.lowercaseChar c)

/-- Whether a character is in no need of another one in a domain name. -/
def standsForItself (c : Char) : Bool := domainText? c == some [c]

end DirectoryAuth.Url
