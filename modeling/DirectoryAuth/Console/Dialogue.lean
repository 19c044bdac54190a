import DirectoryAuth.Console.Prompt
import DirectoryAuth.StaticList

/-! The dialogue that asks for users and their passwords, to be put on a list of credentials. -/
namespace DirectoryAuth

/-- Why a username cannot stand on a list of credentials. -/
def usernameProblem? (username : String) : Option String :=
  if username = "" then some "Username cannot be empty."
  else if username.toList.any fun c => c == ':' || Text.isBlankChar c then
    some "Username cannot contain ':' or whitespace."
  else none

namespace Dialogue

/-- What the dialogue asks for next. -/
inductive Stage where
  | username
  | password (username : String)
  | another
  deriving DecidableEq, Repr

end Dialogue

/-- A dialogue that goes on, with the credentials entered so far. -/
structure Dialogue where
  stage : Dialogue.Stage := .username
  entered : List Credential := []

namespace Dialogue

def prompt (d : Dialogue) : String :=
  match d.stage with
  | .username => "Enter username:"
  | .password _ => "Enter password:"
  | .another => "Would you like to encode another user? (y/n)"

def shown (d : Dialogue) : String := Console.shown d.prompt

def errorLine (problem : String) : String := Console.indent ++ "ERROR: " ++ problem ++ "\n"

/-- What comes after an answer. -/
inductive Next where
  | again (d : Dialogue)
  | finished (credentials : List Credential)

/-- What is printed after an answer, and what comes next. `salt` is for the password, if the
answer is one. -/
def answer (d : Dialogue) (salt : Bytes) (line : String) : String × Next :=
  match d.stage with
  | .username =>
    match usernameProblem? line with
    | some problem => (errorLine problem, .again d)
    | none =>
      if d.entered.any (·.username == line) then
        (errorLine "That username was previously entered.", .again d)
      else ("", .again { d with stage := .password line })
  | .password username =>
    if Text.isBlank line then (errorLine "Password cannot be empty.", .again d)
    else ("\n", .again ⟨.another, d.entered ++ [.ofPassword username line salt]⟩)
  | .another =>
    let word := Text.trim line
    if word = "y" ∨ word = "Y" then ("\n", .again { d with stage := .username })
    else if word = "n" ∨ word = "N" then ("\n", .finished d.entered)
    else ("", .again d)

/-- A whole dialogue: what was printed, how it ended, and the lines that were not read. -/
structure Record where
  transcript : String
  result : Except PromptError (List Credential)
  rest : List Bytes

/-- Holds the dialogue over the lines of an input. The `n`-th credential, counted from zero, has
the salt `salts n`. -/
def hold (salts : Nat → Bytes) (d : Dialogue) : List Bytes → Record
  | [] => ⟨d.shown, .error .endOfInput, []⟩
  | line :: rest =>
    match Console.lineText line with
    | .error e => ⟨d.shown, .error e, rest⟩
    | .ok text =>
      match d.answer (salts d.entered.length) text with
      | (printed, .again d') =>
        let r := hold salts d' rest
        { r with transcript := d.shown ++ printed ++ r.transcript }
      | (printed, .finished credentials) => ⟨d.shown ++ printed, .ok credentials, rest⟩

end Dialogue

end DirectoryAuth
