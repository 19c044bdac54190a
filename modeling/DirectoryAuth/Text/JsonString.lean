import DirectoryAuth.Text.Quoted

/-! Strings in JSON. -/
namespace DirectoryAuth.Text

/-- Two hexadecimal digits. -/
def twoHexDigits (n : Nat) : List Char := if n < 16 then '0' :: hexDigits n else hexDigits n

/-- Only quotation marks, backslashes and the controls below the space are escaped. -/
def jsonChar (c : Char) : List Char :=
  if c = '"' ∨ c = '\\' then ['\\', c]
  else if c = '\x08' then ['\\', 'b']
  else if c = '\x0c' then ['\\', 'f']
  else if c = '\n' then ['\\', 'n']
  else if c = '\r' then ['\\', 'r']
  else if c = '\t' then ['\\', 't']
  else if c.toNat < 0x20 then ['\\', 'u', '0', '0'] ++ twoHexDigits c.toNat
  else [c]

def jsonString (s : String) : String := String.ofList ('"' :: s.toList.flatMap jsonChar ++ ['"'])

/-- An object with its members in the order given, each value already in JSON. -/
def jsonObject (members : List (String × String)) : String :=
  "\x7b" ++ String.intercalate "," (members.map fun m => jsonString m.1 ++ ":" ++ m.2) ++ "\x7d"

end DirectoryAuth.Text
