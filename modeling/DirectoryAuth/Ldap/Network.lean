import DirectoryAuth.Directory.Entry
import DirectoryAuth.Ldap.Filter

/-! What a directory client asks of the servers that it reaches. -/
namespace DirectoryAuth.Ldap

/-- The server's verdict on an operation; the code of a success is zero. A name that leads to no
entry can be matched in part. -/
structure Result where
  code : Nat
  matchedDn : String
  text : String
  deriving DecidableEq, Repr

namespace Result

/-- The standard name of a result code. -/
def name (code : Nat) : String :=
  match code with
  | 0 => "success"
  | 1 => "operationsError"
  | 2 => "protocolError"
  | 3 => "timeLimitExceeded"
  | 4 => "sizeLimitExceeded"
  | 5 => "compareFalse"
  | 6 => "compareTrue"
  | 7 => "authMethodNotSupported"
  | 8 => "strongerAuthRequired"
  | 10 => "referral"
  | 11 => "adminLimitExceeded"
  | 12 => "unavailableCriticalExtension"
  | 13 => "confidentialityRequired"
  | 14 => "saslBindInProgress"
  | 16 => "noSuchAttribute"
  | 17 => "undefinedAttributeType"
  | 18 => "inappropriateMatching"
  | 19 => "constraintViolation"
  | 20 => "attributeOrValueExists"
  | 21 => "invalidAttributeSyntax"
  | 32 => "noSuchObject"
  | 33 => "aliasProblem"
  | 34 => "invalidDNSyntax"
  | 36 => "aliasDereferencingProblem"
  | 48 => "inappropriateAuthentication"
  | 49 => "invalidCredentials"
  | 50 => "insufficientAccessRights"
  | 51 => "busy"
  | 52 => "unavailable"
  | 53 => "unwillingToPerform"
  | 54 => "loopDetect"
  | 64 => "namingViolation"
  | 65 => "objectClassViolation"
  | 66 => "notAllowedOnNonLeaf"
  | 67 => "notAllowedOnRDN"
  | 68 => "entryAlreadyExists"
  | 69 => "objectClassModsProhibited"
  | 71 => "affectsMultipleDSAs"
  | 80 => "other"
  | _ => "unknown"

def message (r : Result) : String :=
  "LDAP operation result: rc=" ++ toString r.code ++ " (" ++ name r.code ++
    "), dn: \"" ++ r.matchedDn ++ "\", text: \"" ++ r.text ++ "\""

end Result

structure Entry where
  dn : String
  attributes : EntryAttributes
  deriving DecidableEq, Repr

/-- A search in the whole tree below `base`. -/
structure SearchRequest where
  base : String
  filter : Filter
  attributes : List String
  deriving DecidableEq, Repr

structure SearchAnswer where
  entries : List Entry
  result : Result
  deriving DecidableEq, Repr

/-- Operations on connections of type `κ` in a world of type `σ`, through a client library. An
operation that gets no answer from the server gives the reason. -/
structure Network (κ σ : Type) where
  connect : σ → Except String κ × σ
  bind : κ → (dn password : String) → σ → Except String Result × σ
  /-- Whether the library can read the filter of a search. -/
  parses : Filter → Bool
  search : κ → SearchRequest → σ → Except String SearchAnswer × σ
  unbind : κ → σ → σ

/-- Why a search has no answer. -/
inductive SearchFailure where
  /-- The library cannot read the filter. -/
  | filter
  | transport (reason : String)
  deriving DecidableEq, Repr

def SearchFailure.message : SearchFailure → String
  | filter => "filter parse error"
  | transport reason => reason

namespace Network

variable {κ σ : Type}

/-- A search through the library, which reads the filter before it sends anything. -/
def ask (net : Network κ σ) (c : κ) (request : SearchRequest) (s : σ) :
    Except SearchFailure SearchAnswer × σ :=
  if net.parses request.filter then
    match net.search c request s with
    | (.ok answer, s) => (.ok answer, s)
    | (.error reason, s) => (.error (.transport reason), s)
  else (.error .filter, s)

section
variable (net : Network κ σ) (request : SearchRequest)

theorem ask_of_parses (h : net.parses request.filter = true) (c : κ) (s : σ) :
    net.ask c request s =
      match net.search c request s with
      | (.ok answer, s) => (.ok answer, s)
      | (.error reason, s) => (.error (.transport reason), s) :=
  if_pos h

/-- Nothing is sent with a filter that cannot be read. -/
theorem ask_of_not_parses (h : net.parses request.filter = false) (c : κ) (s : σ) :
    net.ask c request s = (.error .filter, s) :=
  if_neg (Bool.eq_false_iff.mp h)

end

/-- A network that nobody answers on. -/
def unavailable : Network Empty σ where
  connect s := (.error "no network", s)
  bind c _ _ _ := nomatch c
  parses := Filter.wellFormed
  search c _ _ := nomatch c
  unbind c _ := nomatch c

end Network

end DirectoryAuth.Ldap
