import DirectoryAuth.Text.Numeral
import DirectoryAuth.Text.Split
import DirectoryAuth.Toml.Trivia

/-! Dates and times of TOML, of which only the form matters. -/
namespace DirectoryAuth.Toml

def numberOf? (width : Nat) (cs : Chars) : Option Nat :=
  if cs.length = width ∧ cs.all Char.isDigit then some (Text.numeral 10 cs) else none

def daysInMonth (year month : Nat) : Nat :=
  if month = 2 then
    if year % 4 = 0 ∧ (year % 100 ≠ 0 ∨ year % 400 = 0) then 29 else 28
  else if month ∈ [4, 6, 9, 11] then 30
  else 31

def isDate (cs : Chars) : Bool :=
  match Text.pieces (· == '-') cs with
  | [y, m, d] =>
    match numberOf? 4 y, numberOf? 2 m, numberOf? 2 d with
    | some y, some m, some d => 1 ≤ m && m ≤ 12 && 1 ≤ d && d ≤ daysInMonth y m
    | _, _, _ => false
  | _ => false

def isSecond (cs : Chars) : Bool :=
  let whole := cs.takeWhile (· != '.')
  (numberOf? 2 whole).any (· ≤ 60) &&
    match cs.drop whole.length with
    | [] => true
    | _ :: fraction => fraction != [] && fraction.all Char.isDigit

/-- Hours and minutes, and perhaps seconds. -/
def isTime (cs : Chars) : Bool :=
  match Text.pieces (· == ':') cs with
  | h :: m :: s =>
    (numberOf? 2 h).any (· ≤ 23) && (numberOf? 2 m).any (· ≤ 59) &&
      match s with
      | [] => true
      | [s] => isSecond s
      | _ => false
  | _ => false

def isOffset (cs : Chars) : Bool :=
  match cs with
  | ['Z'] | ['z'] => true
  | c :: rest =>
    (c == '+' || c == '-') &&
      match Text.pieces (· == ':') rest with
      | [h, m] => (numberOf? 2 h).any (· ≤ 23) && (numberOf? 2 m).any (· ≤ 59)
      | _ => false
  | [] => false

def isTimeWithOffset (cs : Chars) : Bool :=
  let time := cs.takeWhile fun c => c.isDigit || c == ':' || c == '.'
  let offset := cs.drop time.length
  isTime time && (offset == [] || isOffset offset)

def isDateTime (token : Chars) : Bool :=
  match token.drop 10 with
  | [] => isDate token || isTime token
  | c :: rest =>
    (isDate (token.take 10) && (c == 'T' || c == 't' || c == ' ') && isTimeWithOffset rest) ||
      isTime token

end DirectoryAuth.Toml
