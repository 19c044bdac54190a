import DirectoryAuth.Toml.DateTime
import DirectoryAuth.Toml.Number

/-! Values of TOML without structure that are no strings: truth values, dates and times, numbers. -/
namespace DirectoryAuth.Toml

def isTokenChar (c : Char) : Bool := c.isAlphanum || "+-_.:".toList.contains c

/-- The characters of a value that is no string. A space may stand between a date and a time. -/
def readToken (cs : Chars) : Chars × Chars :=
  let token := cs.takeWhile isTokenChar
  match cs.drop token.length with
  | ' ' :: d :: rest =>
    if isDate token ∧ d.isDigit then
      let time := (d :: rest).takeWhile isTokenChar
      (token ++ ' ' :: time, (d :: rest).drop time.length)
    else (token, ' ' :: d :: rest)
  | rest => (token, rest)

def ofToken? (token : Chars) : Option Value :=
  if token = ['t', 'r', 'u', 'e'] then some (.boolean true)
  else if token = ['f', 'a', 'l', 's', 'e'] then some (.boolean false)
  else if isDateTime token then some .datetime
  else
    match readInteger? token with
    | some n => some (.integer n)
    | none => (readFloat? token).map .float

end DirectoryAuth.Toml
