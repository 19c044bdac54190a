/-! Failures in talking to a directory server. -/
namespace DirectoryAuth

inductive DirectoryError where
  | notConnected
  | connection (reason : String)
  | bind (code : Nat) (reason : String)
  | search (reason : String)
  | invalidDn (reason : String)
  | configuration (reason : String)
  deriving DecidableEq, Repr

namespace DirectoryError

def message : DirectoryError → String
  | notConnected => "Directory client is not bound to a server"
  | connection reason => "Failed to connect to directory server: " ++ reason
  | bind code reason => "Bind failed with code " ++ toString code ++ ": " ++ reason
  | search reason => "Directory search failed: " ++ reason
  | invalidDn reason => "Invalid distinguished name: " ++ reason
  | configuration reason => "Directory configuration error: " ++ reason

/-- The stable name of the cause, for programs. -/
def code : DirectoryError → String
  | notConnected => "NotConnected"
  | connection _ => "ConnectionFailed"
  | bind _ _ => "BindFailed"
  | search _ => "SearchFailed"
  | invalidDn _ => "InvalidDn"
  | configuration _ => "InvalidConfiguration"

end DirectoryError

end DirectoryAuth
