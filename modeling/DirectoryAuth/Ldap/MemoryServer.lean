import DirectoryAuth.Ldap.Network
import DirectoryAuth.Table

/-! A directory server in memory, which answers as it is told and remembers what it was asked. -/
namespace DirectoryAuth.Ldap

/-- An answer given whatever was asked. -/
inductive FixedAnswer where
  /-- The connection is closed instead. -/
  | dropped
  | result (result : Result)
  deriving DecidableEq, Repr

inductive ReceivedRequest where
  | bind (dn password : String)
  | search (request : SearchRequest)
  deriving DecidableEq, Repr

structure MemoryServer where
  accounts : Table String := {}
  bindAnswers : Table FixedAnswer := {}
  entries : List Entry := []
  searchAnswer : Option FixedAnswer := none
  /-- Whether new connections are taken; open ones live on in any case. -/
  accepting : Bool := true
  received : List ReceivedRequest := []
  deriving Inhabited

namespace MemoryServer

def bindAnswer (server : MemoryServer) (dn password : String) : Except String Result :=
  match server.bindAnswers.get? dn with
  | some .dropped => .error "connection closed"
  | some (.result r) => .ok r
  | none =>
    if server.accounts.get? dn = some password then .ok ⟨0, "", ""⟩
    else .ok ⟨49, "", "invalid credentials"⟩

/-- Whether an attribute of the entry, whatever the ASCII case of its name, has the value. -/
def holds (entry : Entry) (filter : Filter) : Bool :=
  (entry.attributes.values filter.name).contains filter.value

def answerTo (server : MemoryServer) (request : SearchRequest) : Except String SearchAnswer :=
  let entries := server.entries.filter fun e => holds e request.filter
  match server.searchAnswer with
  | some .dropped => .error "connection closed"
  | some (.result r) => .ok ⟨entries, r⟩
  | none => .ok ⟨entries, ⟨0, "", ""⟩⟩

def receive (server : MemoryServer) (request : ReceivedRequest) : MemoryServer :=
  { server with received := server.received ++ [request] }

/-- The network on which a server in memory is the only one. -/
def network : Network Unit MemoryServer where
  connect server := (if server.accepting then .ok () else .error "connection refused", server)
  bind _ dn password server := (server.bindAnswer dn password, server.receive (.bind dn password))
  parses := Filter.wellFormed
  search _ request server := (server.answerTo request, server.receive (.search request))
  unbind _ server := server

end MemoryServer

end DirectoryAuth.Ldap
