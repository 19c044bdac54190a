import DirectoryAuth.Credential.Error
import DirectoryAuth.Directory.Error
import DirectoryAuth.Settings.Error

/-! Every cause of failure in one type, with the message for people and the code for programs. -/
namespace DirectoryAuth

inductive Failure where
  | credential (cause : CredentialError)
  | directory (cause : DirectoryError)
  | settings (cause : SettingsError)
  | io (reason : String)
  | internal (reason : String)
  | other (reason : String)
  deriving DecidableEq, Repr

namespace Failure

def message : Failure → String
  | credential cause => cause.message
  | directory cause => cause.message
  | settings cause => cause.message
  | io reason => "IO error: " ++ reason
  | internal reason => "Internal error: " ++ reason
  | other reason => reason

def code : Failure → String
  | credential cause => cause.code
  | directory cause => cause.code
  | settings _ => "InvalidConfiguration"
  | io _ => "IoError"
  | internal _ | other _ => "InternalError"

end Failure

end DirectoryAuth
