import DirectoryAuth.Bytes

/-! Base64 with the standard alphabet. Padding is required and unused bits are zero, so every byte
string has exactly one written form. -/
namespace DirectoryAuth.Base64

/-- The character for a value below 64. -/
def sextetChar (n : Nat) : Char :=
  if n < 26 then Char.ofNat (n + 65)
  else if n < 52 then Char.ofNat (n + 71)
  else if n < 62 then Char.ofNat (n - 4)
  else if n = 62 then '+' else '/'

def sextetValue? (c : Char) : Option Nat :=
  if 65 ≤ c.toNat ∧ c.toNat ≤ 90 then some (c.toNat - 65)
  else if 97 ≤ c.toNat ∧ c.toNat ≤ 122 then some (c.toNat - 71)
  else if 48 ≤ c.toNat ∧ c.toNat ≤ 57 then some (c.toNat + 4)
  else if c = '+' then some 62
  else if c = '/' then some 63
  else none

theorem sextetValue?_sextetChar : ∀ n < 64, sextetValue? (sextetChar n) = some n := by decide

theorem sextetValue?_pad : sextetValue? '=' = none := by decide

/-- Three bytes are four characters; one or two bytes at the end are padded with `=`. -/
def encodeChars : Bytes → List Char
  | a :: b :: c :: rest =>
    sextetChar (a.toNat / 4) :: sextetChar (a.toNat % 4 * 16 + b.toNat / 16) ::
      sextetChar (b.toNat % 16 * 4 + c.toNat / 64) :: sextetChar (c.toNat % 64) ::
      encodeChars rest
  | [a, b] =>
    [sextetChar (a.toNat / 4), sextetChar (a.toNat % 4 * 16 + b.toNat / 16),
      sextetChar (b.toNat % 16 * 4), '=']
  | [a] => [sextetChar (a.toNat / 4), sextetChar (a.toNat % 4 * 16), '=', '=']
  | [] => []

/-- The bytes of one padded group: a single byte or two, whose unused bits are zero. -/
def decodeLast? (a b c d : Char) : Option Bytes := do
  guard (d = '=')
  let s ← sextetValue? a
  let t ← sextetValue? b
  if c = '=' then
    guard (t % 16 = 0)
    pure [UInt8.ofNat (s * 4 + t / 16)]
  else
    let u ← sextetValue? c
    guard (u % 4 = 0)
    pure [UInt8.ofNat (s * 4 + t / 16), UInt8.ofNat (t % 16 * 16 + u / 4)]

/-- The three bytes of a group without padding. -/
def decodeGroup? (a b c d : Char) : Option Bytes := do
  let s ← sextetValue? a
  let t ← sextetValue? b
  let u ← sextetValue? c
  let v ← sextetValue? d
  pure [UInt8.ofNat (s * 4 + t / 16), UInt8.ofNat (t % 16 * 16 + u / 4),
    UInt8.ofNat (u % 4 * 64 + v)]

def decodeChars? : List Char → Option Bytes
  | [] => some []
  | a :: b :: c :: d :: rest =>
    match decodeGroup? a b c d with
    | some bytes => (decodeChars? rest).map (bytes ++ ·)
    | none => if rest = [] then decodeLast? a b c d else none
  | _ => none

def encode (bytes : Bytes) : String := String.ofList (encodeChars bytes)

def decode? (text : String) : Option Bytes := decodeChars? text.toList

/-- The written form of a byte string that is not empty. -/
def encodeNonempty? (bytes : Bytes) : Option String :=
  if bytes = [] then none else some (encode bytes)

/-- A text that is not the written form of any byte string. -/
structure Invalid where
  text : String
  deriving DecidableEq, Repr

def Invalid.message (e : Invalid) : String := "Invalid Base64 string: " ++ e.text

/-- Reads a text back; the empty text stands for nothing. -/
def read (text : String) : Except Invalid (Option Bytes) :=
  if text = "" then .ok none
  else match decode? text with
    | some bytes => .ok (some bytes)
    | none => .error ⟨text⟩

end DirectoryAuth.Base64
