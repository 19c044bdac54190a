import DirectoryAuth.Bytes

/-! Prompts on a console, and the lines that are read after them. -/
namespace DirectoryAuth

/-- Why no line could be read. -/
inductive PromptError where
  | endOfInput
  | notUtf8
  deriving DecidableEq, Repr

def PromptError.message : PromptError → String
  | endOfInput => "Unexpected end of input"
  | notUtf8 => "stream did not contain valid UTF-8"

namespace Console

/-- The indentation of prompts and of what belongs to them. -/
def indent : String := "   "

/-- A prompt as it is shown. -/
def shown (prompt : String) : String := indent ++ prompt ++ " "

/-- The lines of an input, each with its line end; the last one may lack it. -/
def rawLines : Bytes → List Bytes
  | [] => []
  | b :: rest =>
    if b = 10 then [b] :: rawLines rest
    else match rawLines rest with
      | [] => [[b]]
      | line :: more => (b :: line) :: more

def isLineEnd (c : Char) : Bool := c == '\r' || c == '\n'

/-- The text of a line without the line ends after it. -/
def lineText (line : Bytes) : Except PromptError String :=
  match ofUtf8? line with
  | some s => .ok (String.ofList (s.toList.reverse.dropWhile isLineEnd).reverse)
  | none => .error .notUtf8

/-- Reads the next of the lines that are left. A line that is no text is passed over. -/
def readLine : List Bytes → Except PromptError String × List Bytes
  | [] => (.error .endOfInput, [])
  | line :: rest => (lineText line, rest)

end Console

end DirectoryAuth
