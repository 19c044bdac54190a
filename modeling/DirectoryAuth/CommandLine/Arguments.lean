import DirectoryAuth.Table

/-! The arguments of the program: options, of which some may stand before or after the command,
and the command with its own. -/
namespace DirectoryAuth.CommandLine

inductive OutputFormat where
  | text
  | json
  deriving DecidableEq, Repr

inductive Command where
  | encode (username password : Option String)
  | check (username : String) (password : Option String)
  deriving DecidableEq, Repr

structure Invocation where
  config : Option String
  logLevel : Option String
  output : OutputFormat
  command : Command
  deriving DecidableEq, Repr

/-- Why the program ends before it runs a command. -/
inductive Stop where
  | version
  | help
  | usage
  deriving DecidableEq, Repr

/-- An option that takes a value. -/
structure Opt where
  long : String
  short : Option Char
  accepts : String → Bool := fun _ => true

def configOption : Opt := { long := "config", short := some 'c' }

def logLevelOption : Opt := { long := "log-level", short := none }

def outputOption : Opt := ⟨"output", some 'o', fun v => v == "text" || v == "json"⟩

def usernameOption : Opt := { long := "username", short := some 'u' }

def passwordOption : Opt := { long := "password", short := some 'p' }

/-- Options that stand before the command or after it. -/
def globalOptions : List Opt := [configOption, logLevelOption, outputOption]

/-- The arguments that may stand in one place: before the command, or after one. -/
structure Place where
  options : List Opt
  hasVersion : Bool
  /-- How many arguments are not options. -/
  positionals : Nat

def beforeCommand : Place := ⟨globalOptions, true, 0⟩

def afterEncode : Place := ⟨globalOptions ++ [usernameOption, passwordOption], false, 0⟩

def afterCheck : Place := ⟨globalOptions ++ [passwordOption], false, 1⟩

/-- What has been given in one place. -/
structure Given where
  values : Table String := {}
  positionals : List String := []

/-- Takes the value of an option, which is given once and accepted. -/
def Given.take (g : Given) (o : Opt) (value : String) : Except Stop Given :=
  if g.values.contains o.long ∨ !o.accepts value then .error .usage
  else .ok { g with values := g.values.set o.long value }

/-- How an argument reads. -/
inductive Shape where
  | escape
  | long (name : String) (value : Option String)
  | short (letters : List Char)
  | word

def shapeOf (arg : String) : Shape :=
  match arg.toList with
  | ['-', '-'] => .escape
  | '-' :: '-' :: name =>
    let key := name.takeWhile (· != '=')
    .long (String.ofList key)
      (match name.drop key.length with
        | [] => none
        | _ :: value => some (String.ofList value))
  | '-' :: c :: rest => .short (c :: rest)
  | _ => .word

/-- What an argument asks for. -/
inductive Request where
  | stop (s : Stop)
  | option (o : Opt) (value : Option String)

def longRequest (p : Place) (name : String) (value : Option String) : Request :=
  match p.options.find? (·.long == name) with
  | some o => .option o value
  | none =>
    if value.isSome then .stop .usage
    else if name = "help" then .stop .help
    else if name = "version" ∧ p.hasVersion then .stop .version
    else .stop .usage

/-- Only the first letter counts: it takes the others as its value or ends the program. -/
def shortRequest (p : Place) (letters : List Char) : Request :=
  match letters with
  | [] => .stop .usage
  | c :: rest =>
    match p.options.find? (·.short == some c) with
    | some o =>
      .option o (match rest with
        | [] => none
        | '=' :: value => some (String.ofList value)
        | value => some (String.ofList value))
    | none =>
      if c = 'h' then .stop .help
      else if c = 'V' ∧ p.hasVersion then .stop .version
      else .stop .usage

/-- Reads the arguments in one place. Before a command, the first word ends them and is given back
with the arguments after it. -/
def readPlace (p : Place) (endsAtWord : Bool) (g : Given) :
    List String → Except Stop (Given × List String)
  | [] => .ok (g, [])
  | arg :: rest =>
    let word : Except Stop (Given × List String) :=
      if endsAtWord then .ok (g, arg :: rest)
      else if g.positionals.length < p.positionals then
        readPlace p endsAtWord { g with positionals := g.positionals ++ [arg] } rest
      else .error .usage
    let request : Request → Except Stop (Given × List String)
      | .stop s => .error s
      | .option o (some value) => do readPlace p endsAtWord (← g.take o value) rest
      | .option o none =>
        match rest with
        | [] => .error .usage
        | value :: more =>
          match shapeOf value with
          | .word => do readPlace p endsAtWord (← g.take o value) more
          | _ => .error .usage
    match shapeOf arg with
    | .word => word
    | .escape =>
      if g.positionals.length + rest.length ≤ p.positionals ∧ !endsAtWord then
        .ok ({ g with positionals := g.positionals ++ rest }, [])
      else .error .usage
    | .long name value => request (longRequest p name value)
    | .short letters => request (shortRequest p letters)

/-- The password option, or else the variable that stands in for it. -/
def passwordOf (g : Given) (environment : Table String) : Option String :=
  g.values.get? "password" <|> environment.get? "BINDGUARD_PASSWORD"

/-- Options after the command win over those before it, and both over the environment. -/
def invocationOf (before after : Given) (environment : Table String) (command : Command) :
    Invocation where
  config := after.values.get? "config" <|> before.values.get? "config" <|>
    environment.get? "BINDGUARD_CONFIG"
  logLevel := after.values.get? "log-level" <|> before.values.get? "log-level" <|>
    environment.get? "BINDGUARD_LOG_LEVEL"
  output :=
    if (after.values.get? "output" <|> before.values.get? "output") = some "json" then .json
    else .text
  command := command

/-- What help may be asked about. -/
def helpTopics : List (List String) := [[], ["encode"], ["check"], ["help"]]

/-- Reads all arguments. -/
def parse (args : List String) (environment : Table String) : Except Stop Invocation := do
  let (before, rest) ← readPlace beforeCommand true {} args
  match rest with
  | "encode" :: rest =>
    let (after, _) ← readPlace afterEncode false {} rest
    let username := after.values.get? "username"
    let password := passwordOf after environment
    if username.isSome ∧ password.isNone then throw .usage
    pure (invocationOf before after environment (.encode username password))
  | "check" :: rest =>
    let (after, _) ← readPlace afterCheck false {} rest
    match after.positionals with
    | [username] =>
      pure (invocationOf before after environment (.check username (passwordOf after environment)))
    | _ => throw .usage
  | "help" :: topic => throw (if topic ∈ helpTopics then .help else .usage)
  | _ => throw .usage

end DirectoryAuth.CommandLine
