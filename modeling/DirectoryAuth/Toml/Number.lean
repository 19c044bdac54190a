import DirectoryAuth.Text.Numeral
import DirectoryAuth.Text.Split
import DirectoryAuth.Toml.Trivia
import DirectoryAuth.Toml.Value

/-! Numbers of TOML. Single underscores may stand between their digits. -/
namespace DirectoryAuth.Toml

/-- Digits of a kind in which single underscores stand between two digits. -/
def digitsWith? (isDigit : Char → Bool) (cs : Chars) : Option Chars :=
  if (Text.pieces (· == '_') cs).all fun group => group != [] && group.all isDigit then
    some (cs.filter (· != '_'))
  else none

def decimalDigits? (cs : Chars) : Option Chars := digitsWith? Char.isDigit cs

/-- Digits of a whole number, of which only zero itself starts with a zero. -/
def wholeDigits? (cs : Chars) : Option Chars := do
  let digits ← decimalDigits? cs
  if digits.head? = some '0' ∧ cs.length ≠ 1 then none else pure digits

def cutSign : Chars → Bool × Chars
  | '+' :: rest => (false, rest)
  | '-' :: rest => (true, rest)
  | cs => (false, cs)

def signed (negative : Bool) (n : Nat) : Int := if negative then -(n : Int) else n

def readInteger? (token : Chars) : Option Int :=
  match token with
  | '0' :: 'x' :: rest => (digitsWith? Text.isHexDigit rest).map fun d => Text.numeral 16 d
  | '0' :: 'o' :: rest =>
    (digitsWith? (fun c => '0' ≤ c && c ≤ '7') rest).map fun d => Text.numeral 8 d
  | '0' :: 'b' :: rest =>
    (digitsWith? (fun c => c == '0' || c == '1') rest).map fun d => Text.numeral 2 d
  | _ =>
    let (negative, rest) := cutSign token
    (wholeDigits? rest).map fun d => signed negative (Text.numeral 10 d)

/-- What follows the `e` of a float. -/
def readExponent? (cs : Chars) : Option Int :=
  let (negative, rest) := cutSign cs
  (decimalDigits? rest).map fun d => signed negative (Text.numeral 10 d)

def readFloat? (token : Chars) : Option Decimal :=
  let (_, rest) := cutSign token
  if rest = ['i', 'n', 'f'] then some .infinite
  else if rest = ['n', 'a', 'n'] then some .notANumber
  else
    let isE (c : Char) := c == 'e' || c == 'E'
    let mantissa := rest.takeWhile (!isE ·)
    let exponent := rest.drop mantissa.length
    let whole := mantissa.takeWhile (· != '.')
    let fraction := mantissa.drop whole.length
    do
      let e ← match exponent with
        | [] => pure 0
        | _ :: digits => readExponent? digits
      let f ← match fraction with
        | [] => pure []
        | _ :: digits => decimalDigits? digits
      let w ← wholeDigits? whole
      if exponent = [] ∧ fraction = [] then none
      else pure (.finite (Text.numeral 10 (w ++ f)) (e - f.length))

end DirectoryAuth.Toml
