import DirectoryAuth.Text.Composition
import DirectoryAuth.Url.Direction
import DirectoryAuth.Url.Joiner
import DirectoryAuth.Url.Punycode

/-! Domain names: labels with dots between them, in the form in which equal names are equal texts
(UTS 46). -/
namespace DirectoryAuth.Url

/-- Characters of ASCII that no domain name holds. -/
def isForbiddenInDomain (c : Char) : Bool :=
  c.toNat ≤ 0x20 || c == '\x7f' || "%#/:<>?@[\\]^|".toList.contains c

def isAscii (cs : List Char) : Bool := cs.all (·.toNat < 128)

/-- What a label that is not ASCII is like: it starts with no mark, its joiners are in place, and it
is not too long. -/
def isProperLabel (label : List Char) : Bool :=
  !label.head?.any Text.isMark && joinersFit [] label && label.length ≤ 1000

/-- The characters of a label that writes them in Punycode, after `xn--`. They stand for themselves
and are composed, so that the label has no other form. -/
def decodeLabel? (coded : List Char) : Option (List Char) :=
  if isAscii coded ∧ coded.getLast?.any (· != '-') ∧ coded.length ≤ 2000 then
    (Punycode.decode? coded).filter fun label =>
      label.all standsForItself && Text.Composition.compose label == label && isProperLabel label
  else none

/-- The characters of a label. -/
def readLabel? : List Char → Option (List Char)
  | 'x' :: 'n' :: '-' :: '-' :: coded => decodeLabel? coded
  | label => if isAscii label || isProperLabel label then some label else none

/-- The domain name that a text stands for. Once a label runs from right to left, all of them keep
their direction. -/
def readDomain? (cs : List Char) : Option (List Char) := do
  let texts ← cs.mapM domainText?
  let domain := Text.Composition.compose texts.flatten
  let labels ← (Text.pieces (· == '.') domain).mapM readLabel?
  if domain.any isForbiddenInDomain || (labels.any runsLeft && !labels.all keepsDirection) then none
  else pure domain

end DirectoryAuth.Url
