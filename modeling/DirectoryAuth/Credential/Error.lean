/-! Why a credential is refused. -/
namespace DirectoryAuth

inductive CredentialError where
  | missingCredential
  | missingUsername
  | missingPasswordDigest
  | malformed (reason : String)
  | invalidBase64 (text : String)
  | hashing (reason : String)
  deriving DecidableEq, Repr

namespace CredentialError

def message : CredentialError → String
  | missingCredential => "Authentication attempt contains null user credentials"
  | missingUsername => "Credentials contain a null or empty username"
  | missingPasswordDigest => "Credentials contain a null or empty password digest"
  | malformed reason => "Malformed credential string: " ++ reason
  | invalidBase64 text => "Invalid Base64 string: " ++ text
  | hashing reason => "Unable to encode password: " ++ reason

/-- The stable name of the cause, for programs. -/
def code : CredentialError → String
  | missingCredential => "MissingCredential"
  | missingUsername => "MissingUsername"
  | missingPasswordDigest => "MissingPasswordDigest"
  | malformed _ => "MalformedCredential"
  | invalidBase64 _ => "InvalidBase64"
  | hashing _ => "HashingUnavailable"

end CredentialError

end DirectoryAuth
