import DirectoryAuth.CommandLine.Program
import Std.Time.DateTime.Timestamp

/-! The program itself: arguments, environment, files, console and clock are read here, and all else
is decided by the commands. -/
namespace DirectoryAuth.CommandLine

/-- The variables that settings and arguments may come from. -/
def variableNames : List String :=
  ["BINDGUARD_CONFIG", "BINDGUARD_LOG_LEVEL", "BINDGUARD_PASSWORD", "BINDGUARD_LDAP_URL",
    "BINDGUARD_BIND_DN", "BINDGUARD_BIND_PASSWORD", "BINDGUARD_USER_BASE_DN",
    "BINDGUARD_ACCOUNT_ATTRIBUTE", "BINDGUARD_CACHE_ENABLED", "BINDGUARD_CACHE_MAX_DEPTH",
    "BINDGUARD_CACHE_MAX_AGE_MS", "BINDGUARD_STATIC_CREDENTIALS"]

def readEnvironment : IO (Table String) := do
  let mut environment : Table String := {}
  for name in variableNames do
    if let some value ← IO.getEnv name then
      environment := environment.set name value
  return environment

def readClock : IO Instant := do
  let t ← Std.Time.Timestamp.now
  return .ofNanos t.toNanosecondsSinceUnixEpoch.val

def drawSalt : IO Bytes := do
  return (← IO.getRandomBytes Password.saltLength.toUSize).data.toList

def moment : IO Moment := do
  return ⟨← readClock, [← drawSalt, ← drawSalt]⟩

def readFile (path : String) : IO (Except String Bytes) := do
  try
    return .ok (← IO.FS.readBinFile path).data.toList
  catch
    | .noFileOrDirectory .. => return .error "No such file or directory (os error 2)"
    | e => return .error (toString e)

/-- The bytes of the next line, its end included. -/
partial def readRawLine (input : IO.FS.Stream) (line : ByteArray) : IO ByteArray := do
  let next ← input.read 1
  if next.isEmpty || next.data.contains 10 then return line ++ next
  readRawLine input (line ++ next)

def readConsole : IO (Except PromptError String) := do
  let line := (← readRawLine (← IO.getStdin) .empty).data.toList
  return (Console.readLine (if line.isEmpty then [] else [line])).1

def printNow (text : String) : IO Unit := do
  IO.print text
  (← IO.getStdout).flush

/-- Asks and answers until the command is done. -/
partial def converse (settings : Settings) (format : OutputFormat) : Next → IO UInt32
  | .done => return 0
  | .fail message => do
    IO.eprintln ("Error: " ++ message)
    return 1
  | .report username a => do
    let result := reportResult format username (a.finishAt (← readClock))
    printNow result.printed
    return result.exitCode.toUInt32
  | .ask q => do
    printNow q.shown
    let line ← readConsole
    let (printed, next, _) := resume offline settings format q line (← moment)
    printNow printed
    converse settings format next

/-- Runs the program on the arguments given. -/
def runProgram (args : List String) : IO UInt32 := do
  let environment ← readEnvironment
  match parse args environment with
  | .error stop =>
    printNow stop.text
    return stop.exitCode.toUInt32
  | .ok invocation =>
    let file ← invocation.config.mapM readFile
    match settingsOf file environment with
    | .error e => converse {} invocation.output (.fail e.message)
    | .ok settings =>
      let (printed, next, _) :=
        start offline settings invocation.output invocation.command (← moment)
      printNow printed
      converse settings invocation.output next

end DirectoryAuth.CommandLine

def main (args : List String) : IO UInt32 := DirectoryAuth.CommandLine.runProgram args
