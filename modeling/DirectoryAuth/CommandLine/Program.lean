import DirectoryAuth.Authenticator
import DirectoryAuth.Calendar
import DirectoryAuth.CommandLine.Arguments
import DirectoryAuth.Console.Dialogue
import DirectoryAuth.Settings.Document
import DirectoryAuth.Settings.Environment
import DirectoryAuth.Text.JsonString

/-! The commands of the program. `encode` makes a list of credentials, from its options or in a
dialogue, and `check` authenticates once with the authenticator that the settings select. -/
namespace DirectoryAuth.CommandLine

def versionText : String := "bindguard 0.1.0\n"

def Stop.exitCode : Stop → Nat
  | .version | .help => 0
  | .usage => 2

def Stop.text : Stop → String
  | .version => versionText
  | .help | .usage => ""

/-- The settings in the file that the invocation names, or those of the environment. -/
def settingsOf (file : Option (Except String Bytes)) (environment : Table String) :
    Except SettingsError Settings :=
  match file with
  | some content => Settings.ofFile content
  | none => .ok (Settings.ofEnvironment environment)

/-- What the program asks its user. -/
inductive Question where
  | credentials (d : Dialogue)
  | password (username : String)

def Question.shown : Question → String
  | credentials d => d.shown
  | password _ => Console.shown "Enter password:"

/-- What the program does after it has printed something. -/
inductive Next where
  | ask (q : Question)
  | report (username : String) (a : Attempt)
  | done
  | fail (message : String)

/-- What is printed in the end about a list of credentials. -/
def listReport (format : OutputFormat) (credentials : List Credential) : String :=
  let list := Credential.listText credentials
  match format with
  | .json => Text.jsonObject [(staticCredentialsProperty, Text.jsonString list)] ++ "\n"
  | .text =>
    "\nPlace this credential string in the broker property file:\n\n" ++ Console.indent ++
      staticCredentialsProperty ++ " = \"" ++ list ++ "\"\n\n"

/-- What is printed in the end about an attempt. -/
def attemptReport (format : OutputFormat) (username : String) (a : Attempt) : String :=
  match format with
  | .json =>
    Text.jsonObject [("elapsed_ms", toString a.elapsedMillis),
      ("message", Text.jsonString a.message), ("start_time", Text.jsonString a.start.text),
      ("status", Text.jsonString a.status.text),
      ("username", (a.username?.map Text.jsonString).getD "null")] ++ "\n"
  | .text => Attempt.line a.status username a.elapsedMillis a.message ++ "\n"

/-- Encodes a single user. -/
def encodeOne (format : OutputFormat) (username password : String) (salt : Bytes) :
    String × Next :=
  match usernameProblem? username with
  | some problem => ("", .fail problem)
  | none =>
    if Text.isBlank password then ("", .fail "Password cannot be empty")
    else (listReport format [.ofPassword username password salt], .done)

/-- A world with a clock and a network, and the salts that are drawn in it. -/
structure Machine (κ σ : Type) extends Surroundings κ σ where
  draw : σ → Bytes × σ

/-- The time of a step and the salts that may be drawn in it. -/
structure Moment where
  time : Instant
  salts : List Bytes

/-- A machine that reaches no network. -/
def offline : Machine Empty Moment where
  now m := (m.time, m)
  network := Ldap.Network.unavailable
  draw m := (m.salts.headD [], { m with salts := m.salts.drop 1 })

variable {κ σ : Type}

/-- Authenticates once with the authenticator that the settings select. -/
def checkPassword (m : Machine κ σ) (settings : Settings) (username password : String) (s : σ) :
    Next × σ :=
  let (salt, s) := m.draw s
  match Authenticator.build m.toSurroundings settings salt s with
  | (.error e, s) => (.fail e.message, s)
  | (.ok authenticator, s) =>
    let (drawn, s) := m.draw s
    let (attempt, _, s) :=
      authenticator.authenticate m.toSurroundings username password drawn s
    (.report username attempt, s)

/-- The start of a command: what is printed, and what comes next. -/
def start (m : Machine κ σ) (settings : Settings) (format : OutputFormat) (command : Command)
    (s : σ) : String × Next × σ :=
  match command with
  | .encode (some username) (some password) =>
    let (salt, s) := m.draw s
    let (printed, next) := encodeOne format username password salt
    (printed, next, s)
  | .encode _ _ =>
    ("\nSpecify the username and password you would like to encode:\n\n", .ask (.credentials {}), s)
  | .check username (some password) => ("", checkPassword m settings username password s)
  | .check username none => ("", .ask (.password username), s)

/-- What follows an answer. -/
def resume (m : Machine κ σ) (settings : Settings) (format : OutputFormat) (q : Question)
    (line : Except PromptError String) (s : σ) : String × Next × σ :=
  match line, q with
  | .error e, _ => ("", .fail e.message, s)
  | .ok line, .password username => ("", checkPassword m settings username line s)
  | .ok line, .credentials d =>
    let (salt, s) := m.draw s
    match d.answer salt line with
    | (printed, .again d) => (printed, .ask (.credentials d), s)
    | (printed, .finished credentials) => (printed ++ listReport format credentials, .done, s)

/-- What the program printed, the message it failed with, and its exit code. -/
structure Result where
  printed : String
  failure : Option String := none
  exitCode : Nat := 0
  deriving DecidableEq, Repr

/-- The end of the program after an attempt. -/
def reportResult (format : OutputFormat) (username : String) (a : Attempt) : Result where
  printed := attemptReport format username a
  exitCode := if a.successful then 0 else 1

/-- Goes on with a command over the lines of an input. -/
def proceed (m : Machine κ σ) (settings : Settings) (format : OutputFormat) (next : Next) (s : σ)
    (lines : List Bytes) : Result :=
  match next, lines with
  | .done, _ => { printed := "" }
  | .fail message, _ => { printed := "", failure := some message, exitCode := 1 }
  | .report username a, _ => reportResult format username a
  | .ask q, [] =>
    { printed := q.shown, failure := some PromptError.endOfInput.message, exitCode := 1 }
  | .ask q, line :: rest =>
    let (printed, next, s) := resume m settings format q (Console.lineText line) s
    let r := proceed m settings format next s rest
    { r with printed := q.shown ++ printed ++ r.printed }

/-- Runs the program on its arguments, environment, files and input. A file is given by its bytes or
by the reason why it cannot be read. -/
def run (m : Machine κ σ) (args : List String) (environment : Table String)
    (file : String → Except String Bytes) (input : Bytes) (s : σ) : Result :=
  match parse args environment with
  | .error stop => { printed := stop.text, exitCode := stop.exitCode }
  | .ok invocation =>
    match settingsOf (invocation.config.map file) environment with
    | .error e => { printed := "", failure := some e.message, exitCode := 1 }
    | .ok settings =>
      let (printed, next, s) := start m settings invocation.output invocation.command s
      let r := proceed m settings invocation.output next s (Console.rawLines input)
      { r with printed := printed ++ r.printed }

end DirectoryAuth.CommandLine
