import DirectoryAuth.Instant
import DirectoryAuth.Settings.Error

/-! Settings of the cache of attempts. -/
namespace DirectoryAuth

structure CacheSettings where
  enabled : Bool := false
  maxDepth : UInt64 := 10
  maxAgeMillis : UInt64 := 600000
  deriving DecidableEq, Repr, Inhabited

namespace CacheSettings

/-- The longest age in milliseconds that is told apart from longer ones. -/
def longestMillis : Nat := 9223372036854775807

/-- The age in nanoseconds from which on an attempt is too old to be used again. -/
def maxAge (settings : CacheSettings) : Int :=
  (min settings.maxAgeMillis.toNat longestMillis : Nat) * nanosPerMilli

def validate (settings : CacheSettings) : Except SettingsError Unit :=
  if settings.enabled ∧ settings.maxDepth = 0 then
    .error (.invalid "Cache max depth must be greater than zero")
  else .ok ()

end CacheSettings

end DirectoryAuth
