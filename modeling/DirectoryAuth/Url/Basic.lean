import DirectoryAuth.Text.Split
import DirectoryAuth.Url.Host

/-! URLs without a base. Controls and spaces at either end and tabs and line ends anywhere are
dropped before anything is read. -/
namespace DirectoryAuth.Url

/-- The kinds of schemes that differ in how a URL is read. -/
inductive SchemeKind where
  /-- Two slashes or backslashes, or any other number of them, are followed by a host. -/
  | web
  | file
  /-- A host follows two slashes only. -/
  | other
  deriving DecidableEq, Repr

def SchemeKind.of (scheme : String) : SchemeKind :=
  if ["http", "https", "ws", "wss", "ftp"].contains scheme then .web
  else if scheme = "file" then .file
  else .other

/-- Whether a character ends the host part. -/
def SchemeKind.endsAuthority (kind : SchemeKind) (c : Char) : Bool :=
  c == '/' || c == '?' || c == '#' || (c == '\\' && kind != .other)

def isSlash (c : Char) : Bool := c == '/' || c == '\\'

def isControlOrSpace (c : Char) : Bool := c.toNat ≤ 0x20

def isTabOrLineEnd (c : Char) : Bool := c == '\t' || c == '\n' || c == '\r'

/-- The characters that count. -/
def significant (s : String) : List Char :=
  ((((s.toList.dropWhile isControlOrSpace).reverse).dropWhile isControlOrSpace).reverse).filter
    (!isTabOrLineEnd ·)

def isSchemeChar (c : Char) : Bool := c.isAlphanum || c == '+' || c == '-' || c == '.'

/-- The scheme, in lower case, and what follows its colon. -/
def cutScheme? (cs : List Char) : Option (String × List Char) :=
  match Text.cutAt? ':' cs with
  | some (c :: scheme, rest) =>
    if c.isAlpha && scheme.all isSchemeChar then
      some (String.ofList ((c :: scheme).map Text.asciiLowerChar), rest)
    else none
  | _ => none

/-- The user part of an authority and what follows its last `@`. -/
def cutUser (authority : List Char) : Option (List Char) × List Char :=
  if authority.contains '@' then
    let host := (authority.reverse.takeWhile (· != '@')).reverse
    (some (authority.take (authority.length - host.length - 1)), host)
  else (none, authority)

/-- The host, up to the first colon outside of brackets, and what follows it. -/
def cutHost (bracketed : Bool) : List Char → List Char × List Char
  | [] => ([], [])
  | c :: rest =>
    if c = ':' ∧ ¬bracketed then ([], c :: rest)
    else
      let r := cutHost (c == '[' || (bracketed && c != ']')) rest
      (c :: r.1, r.2)

/-- Decimal digits for a number of sixteen bits. A backslash ends them as the end of the authority
does. -/
def checkPort (cs : List Char) : Except UrlError Unit :=
  let digits := cs.takeWhile (· != '\\')
  if digits.all Char.isDigit && Text.numeral 10 digits < 65536 then .ok () else .error .invalidPort

/-- Whether a user part leaves a user name or a password. -/
def namesUser (user : List Char) : Bool := user != [] && user != [':']

/-- Checks what follows the slashes, up to the path. -/
def checkAuthority (kind : SchemeKind) (cs : List Char) : Except UrlError Unit := do
  let authority := cs.takeWhile (!kind.endsAuthority ·)
  let (user, hostPort) := cutUser authority
  if user = some [] ∧ hostPort = [] ∧ authority ≠ cs then throw .emptyHost
  let (host, rest) := cutHost false hostPort
  if kind = .web then
    if host = [] then throw .emptyHost
    checkWebHost host
  else
    checkOpaqueHost host
    if host = [] ∧ rest ≠ [] then throw .emptyHost
  match rest with
  | _ :: port => checkPort port
  | [] => pure ()
  if host = [] ∧ user.any namesUser then throw .emptyHost

/-- A letter and a colon or bar, where a host could stand. -/
def isDriveLetter : List Char → Bool
  | [c, d] => c.isAlpha && (d == ':' || d == '|')
  | _ => false

/-- Checks what follows the colon of the scheme `file`. -/
def checkFile : List Char → Except UrlError Unit
  | c :: d :: rest =>
    let host := rest.takeWhile fun e => !isSlash e && e != '?' && e != '#'
    if isSlash c && isSlash d && host != [] && !isDriveLetter host then checkWebHost host
    else .ok ()
  | _ => .ok ()

/-- Checks what follows the colon of a scheme. -/
def checkRest (kind : SchemeKind) (rest : List Char) : Except UrlError Unit :=
  match kind with
  | .web => checkAuthority kind (rest.dropWhile isSlash)
  | .file => checkFile rest
  | .other =>
    match rest with
    | '/' :: '/' :: more => checkAuthority kind more
    | _ => .ok ()

/-- The scheme of a text that is a URL. -/
def scheme (s : String) : Except UrlError String :=
  match cutScheme? (significant s) with
  | some (scheme, rest) => (checkRest (.of scheme) rest).map fun _ => scheme
  | none => .error .relativeWithoutBase

end DirectoryAuth.Url
