/-! Why settings cannot be read or used. -/
namespace DirectoryAuth

inductive SettingsError where
  | read (reason : String)
  | parse (reason : String)
  | invalidValue (key value : String)
  | invalid (reason : String)
  deriving DecidableEq, Repr

def SettingsError.message : SettingsError → String
  | read reason => "Failed to read config: " ++ reason
  | parse reason => "Failed to parse config: " ++ reason
  | invalidValue key value => "Invalid value for " ++ key ++ ": " ++ value
  | invalid reason => "Invalid configuration: " ++ reason

end DirectoryAuth
