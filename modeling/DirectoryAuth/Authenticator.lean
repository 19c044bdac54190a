import DirectoryAuth.Coordinator
import DirectoryAuth.Failure
import DirectoryAuth.Ldap.Client
import DirectoryAuth.Settings.Validation
import DirectoryAuth.StaticList

/-! The authenticator that settings select: a list of credentials, or a directory behind a cache
of attempts. -/
namespace DirectoryAuth

/-- A world with a clock and a network. -/
structure Surroundings (κ σ : Type) where
  now : σ → Instant × σ
  network : Ldap.Network κ σ

inductive Authenticator (κ : Type) where
  | static (list : StaticList)
  | directory (settings : LdapSettings) (client : Ldap.Client κ) (coordinator : Coordinator)

/-- The world of a coordinator that asks a directory client. -/
def Surroundings.world {κ σ : Type} (around : Surroundings κ σ) (settings : LdapSettings) :
    World (Ldap.Client κ × σ) where
  now s :=
    let (t, world) := around.now s.2
    (t, s.1, world)
  verify username password := (Ldap.Session.verify around.network settings username password).run

namespace Authenticator

variable {κ σ : Type}

/-- Selects the authenticator. A directory is connected at once, but one that cannot be reached is
no error yet. -/
def build (around : Surroundings κ σ) (settings : Settings) (salt : Bytes) (s : σ) :
    Except Failure (Authenticator κ) × σ :=
  match settings.validate with
  | .error e => (.error (.settings e), s)
  | .ok () =>
    match settings.staticList? with
    | some text => (((StaticList.parse text).mapError Failure.credential).map .static, s)
    | none =>
      let (_, client, s) := (Ldap.Session.connectServiceAccount around.network settings.ldap).run
        ({}, s)
      (.ok (.directory settings.ldap client (.ofSettings settings.cache salt)), s)

/-- Authenticates once; `drawn` is a salt for a user who is not on a list. -/
def authenticate (around : Surroundings κ σ) (a : Authenticator κ) (username password : String)
    (drawn : Bytes) (s : σ) : Attempt × Authenticator κ × σ :=
  match a with
  | static list =>
    let (attempt, s) := list.authenticate around.now username password drawn s
    (attempt, a, s)
  | directory settings client coordinator =>
    let reply := coordinator.authenticate (around.world settings) username password (client, s)
    (reply.attempt, .directory settings reply.world.1 reply.coordinator, reply.world.2)

end Authenticator

end DirectoryAuth
