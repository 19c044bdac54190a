import DirectoryAuth.Text.Numeral
import DirectoryAuth.Text.Split

/-! The written forms of internet addresses that a URL admits. -/
namespace DirectoryAuth.Url

/-- A byte in decimal without leading zeros. -/
def isDecimalByte (cs : List Char) : Bool :=
  cs != [] && cs.all Char.isDigit && (cs.length == 1 || cs.head? != some '0') &&
    Text.numeral 10 cs ≤ 255

/-- Four decimal bytes with dots between them. -/
def isDottedQuad (cs : List Char) : Bool :=
  let parts := Text.pieces (· == '.') cs
  parts.length == 4 && parts.all isDecimalByte

/-- Up to four hexadecimal digits at the start. -/
def hexGroup (cs : List Char) : List Char := (cs.take 4).takeWhile Text.isHexDigit

/-- Whether the rest of an address is complete, after `seen` groups of sixteen bits and perhaps a
gap of zeros, which takes the place of one group at least. -/
def isIpv6Rest (seen : Nat) (gap : Bool) (cs : List Char) : Bool :=
  match cs with
  | [] => gap || seen == 8
  | c :: rest =>
    if seen == 8 then false
    else if c = ':' then if gap then false else isIpv6Rest (seen + 1) true rest
    else
      let group := hexGroup (c :: rest)
      match h : (c :: rest).drop group.length with
      | [] => gap || seen == 7
      | ':' :: more => if more = [] then false else isIpv6Rest (seen + 1) gap more
      | '.' :: _ => group != [] && isDottedQuad (c :: rest) && seen ≤ 6 && (gap || seen == 6)
      | _ => false
termination_by cs.length
decreasing_by
  · simp
  · have hl := congrArg List.length h
    simp only [List.length_drop, List.length_cons] at hl
    simp only [List.length_cons]
    omega

def isIpv6 (cs : List Char) : Bool :=
  match cs with
  | ':' :: ':' :: rest => isIpv6Rest 1 true rest
  | ':' :: _ => false
  | _ => isIpv6Rest 0 false cs

/-- A part of an address of 32 bits: hexadecimal after `0x`, octal after another `0`, or decimal.
The outer option tells whether it is a number and the inner one whether it fits. -/
def ipv4Number? (cs : List Char) : Option (Option Nat) :=
  let read (base : Nat) (valid : Char → Bool) (digits : List Char) : Option (Option Nat) :=
    if digits.all valid then
      let n := Text.numeral base digits
      some (if n < UInt32.size then some n else none)
    else none
  match cs with
  | [] => none
  | '0' :: 'x' :: digits | '0' :: 'X' :: digits => read 16 Text.isHexDigit digits
  | '0' :: c :: rest => read 8 (fun d => '0' ≤ d && d ≤ '7') (c :: rest)
  | _ => read 10 Char.isDigit cs

/-- The parts of a host name; a dot at the end closes the last one. -/
def hostParts (cs : List Char) : List (List Char) :=
  let parts := Text.pieces (· == '.') cs
  if parts.length > 1 && parts.getLast? == some [] then parts.dropLast else parts

/-- Whether a host name has to be an address, because its last part is a number. -/
def endsInNumber (cs : List Char) : Bool :=
  match (hostParts cs).getLast? with
  | some last => (last != [] && last.all Char.isDigit) || (ipv4Number? last).isSome
  | none => false

/-- Up to four numbers, all but the last of which fit in a byte. -/
def isIpv4 (cs : List Char) : Bool :=
  let parts := hostParts cs
  match parts.mapM fun part => (ipv4Number? part).join with
  | some numbers =>
    numbers.length ≤ 4 && numbers.dropLast.all (· ≤ 255) &&
      numbers.getLast?.all (· < Nat.pow 256 (5 - numbers.length))
  | none => false

end DirectoryAuth.Url
