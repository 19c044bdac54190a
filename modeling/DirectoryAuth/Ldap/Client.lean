import DirectoryAuth.Ldap.Network
import DirectoryAuth.Settings.Ldap

/-! A directory client. It keeps one connection, bound to the service account, for searches, and
checks a password by binding as the user on a connection of its own. -/
namespace DirectoryAuth.Ldap

inductive ClientState where
  | unbound
  | bound
  /-- A search had no answer, and nothing has been connected or closed since. -/
  | error
  deriving DecidableEq, Repr, Inhabited

def ClientState.text : ClientState → String
  | unbound => "Unbound"
  | bound => "Bound"
  | error => "Error"

/-- The connection for searches, if there is one. -/
structure Client (κ : Type) where
  handle : Option κ := none
  state : ClientState := .unbound

/-- An action of a client in a world. -/
abbrev Session (κ σ : Type) := StateM (Client κ × σ)

namespace Session

variable {κ σ α : Type}

/-- An operation on the world alone. -/
def outside (f : σ → α × σ) : Session κ σ α := fun (c, s) =>
  let (a, s) := f s
  (a, c, s)

def client : Session κ σ (Client κ) := fun (c, s) => (c, c, s)

def setClient (c : Client κ) : Session κ σ Unit := fun (_, s) => ((), c, s)

variable (net : Network κ σ) (settings : LdapSettings)

def unbind (c : κ) : Session κ σ Unit := outside fun s => ((), net.unbind c s)

def unbindOld : Option κ → Session κ σ Unit
  | some old => unbind net old
  | none => pure ()

/-- Gives up the connection for searches. -/
def close : Session κ σ Unit := do
  let old := (← client).handle
  setClient { handle := none, state := .unbound }
  unbindOld net old

/-- Binds a new connection for searches. A failure leaves none; a success replaces the old one. -/
def connect (dn password : String) : Session κ σ (Except DirectoryError Unit) := do
  match ← outside net.connect with
  | .error reason =>
    close net
    pure (.error (.connection reason))
  | .ok c =>
    match ← outside (net.bind c dn password) with
    | .error reason =>
      close net
      pure (.error (.connection ("Bind failed: " ++ reason)))
    | .ok result =>
      if result.code = 0 then
        let old := (← client).handle
        setClient { handle := some c, state := .bound }
        unbindOld net old
        pure (.ok ())
      else
        unbind net c
        close net
        pure (.error (.bind result.code result.text))

def connectServiceAccount : Session κ σ (Except DirectoryError Unit) :=
  connect net settings.bindDn settings.bindPassword

/-- The connection for searches; where there is none, the service account is connected. -/
def searchHandle : Session κ σ (Except DirectoryError κ) := do
  match (← client).handle with
  | some c => pure (.ok c)
  | none =>
    if settings.bindDn = "" then pure (.error .notConnected)
    else
      match ← connectServiceAccount net settings with
      | .error e => pure (.error e)
      | .ok () =>
        match (← client).handle with
        | some c => pure (.ok c)
        | none => pure (.error .notConnected)

/-- The first entry whose attribute has the value. Without an answer, be it that the transport fails
or that the filter is never sent, the connection is given up without a word to the server. -/
def searchFirst (name value : String) (wanted : List String) :
    Session κ σ (Except DirectoryError (Option Entry)) := do
  match ← searchHandle net settings with
  | .error e => pure (.error e)
  | .ok c =>
    match ← outside (net.ask c ⟨settings.userBaseDn, ⟨name, value⟩, wanted⟩) with
    | .error failure =>
      setClient { handle := none, state := .error }
      pure (.error (.search failure.message))
    | .ok answer =>
      if answer.result.code = 0 then pure (.ok answer.entries.head?)
      else pure (.error (.search answer.result.message))

def findUser (name value : String) : Session κ σ (Except DirectoryError (Option User)) := do
  let names := settings.attributes
  let found ← searchFirst net settings name value
    [names.accountName, names.commonName, names.email, names.memberOf]
  pure (found.map fun entry => entry.map fun e => names.userOfEntry e.dn e.attributes)

def findGroup (name value : String) : Session κ σ (Except DirectoryError (Option Group)) := do
  let names := settings.attributes
  let found ← searchFirst net settings name value [names.commonName, names.member]
  pure (found.map fun entry => entry.map fun e => names.groupOfEntry e.dn e.attributes)

end Session

/-- The name to bind as: the one that a search returned the account under, unless it is blank, or
else one rebuilt from the components. -/
def bindDnOf (names : AttributeNames) (account : Account) : String :=
  match account.entryDn with
  | some dn => if Text.isBlank dn then names.authenticationDn account else dn
  | none => names.authenticationDn account

namespace Session

variable {κ σ : Type} (net : Network κ σ) (settings : LdapSettings)

/-- Binds once on a connection of its own and tells whether the server accepted it. -/
def tryBind (dn password : String) : Session κ σ (Except DirectoryError Bool) := do
  match ← outside net.connect with
  | .error reason => pure (.error (.connection reason))
  | .ok c =>
    match ← outside (net.bind c dn password) with
    | .error reason => pure (.error (.connection ("User bind failed: " ++ reason)))
    | .ok result =>
      unbind net c
      pure (.ok (result.code == 0))

/-- Whether the directory accepts a password. A blank one is refused at once, since servers take
a bind without a password for an anonymous one. -/
def verify (username password : String) : Session κ σ (Except DirectoryError Bool) := do
  if Text.isBlank password then pure (.ok false)
  else
    match ← findUser net settings settings.attributes.accountName username with
    | .error e => pure (.error e)
    | .ok none => pure (.ok false)
    | .ok (some user) => tryBind net (bindDnOf settings.attributes user.account) password

end Session

end DirectoryAuth.Ldap
