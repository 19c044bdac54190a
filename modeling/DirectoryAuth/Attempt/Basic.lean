import DirectoryAuth.Credential.Basic
import DirectoryAuth.Instant

/-! An attempt to authenticate, its outcome, and its line in the log of attempts. -/
namespace DirectoryAuth

inductive Status where
  | success
  | failure
  /-- The outcome could not be determined. -/
  | error
  deriving DecidableEq, Repr, Inhabited

def Status.text : Status → String
  | success => "SUCCESS"
  | failure => "FAILURE"
  | error => "ERROR"

/-- An attempt is a failure with an empty message until its outcome is known. -/
structure Attempt where
  credential : Option Credential
  start : Instant
  status : Status := .failure
  message : String := ""
  finish : Option Instant := none
  deriving DecidableEq

inductive LogLevel where
  | debug
  | info
  deriving DecidableEq, Repr

def LogLevel.text : LogLevel → String
  | debug => "DEBUG"
  | info => "INFO"

structure LogEntry where
  level : LogLevel
  text : String
  deriving DecidableEq, Repr

namespace Attempt

def username? (a : Attempt) : Option String := a.credential.map (·.username)

def successful (a : Attempt) : Bool := a.status == .success

def setOutcome (a : Attempt) (status : Status) (message : String) : Attempt :=
  { a with status := status, message := message }

def finishAt (a : Attempt) (time : Instant) : Attempt := { a with finish := some time }

/-- The nanoseconds from start to finish; none have passed while the attempt is unfinished. -/
def elapsed (a : Attempt) : Int := (a.finish.map fun t => t.since a.start).getD 0

def elapsedMillis (a : Attempt) : Int := wholeMillis a.elapsed

/-- Status, name, duration and message as one line. -/
def line (status : Status) (name : String) (millis : Int) (message : String) : String :=
  status.text ++ " " ++ name ++ " [" ++ toString millis ++ " ms] " ++ message

def text (a : Attempt) : String :=
  line a.status (a.username?.getD "-") a.elapsedMillis a.message

instance : ToString Attempt := ⟨text⟩

/-- Successes are logged for debugging, everything else for information. -/
def logEntry (a : Attempt) : LogEntry :=
  ⟨if a.status = .success then .debug else .info, a.text⟩

end Attempt

end DirectoryAuth
