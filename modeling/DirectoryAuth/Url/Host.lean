import DirectoryAuth.Bytes
import DirectoryAuth.Url.Domain
import DirectoryAuth.Url.Error
import DirectoryAuth.Url.IpAddress

/-! Hosts of URLs. Schemes of the web name a domain or an address; in other schemes a host is an
opaque text. -/
namespace DirectoryAuth.Url

/-- An address in square brackets, of which the first bracket has been read. -/
def checkBracketed (cs : List Char) : Except UrlError Unit :=
  if cs.getLast? = some ']' ∧ isIpv6 cs.dropLast then .ok () else .error .invalidIpv6Address

/-- Characters that a host never contains. -/
def isForbiddenInHost (c : Char) : Bool :=
  c == '\x00' || c == '\t' || c == '\n' || c == '\r' || "#/:<>?@[\\]^| ".toList.contains c

def checkOpaqueHost (host : List Char) : Except UrlError Unit :=
  match host with
  | '[' :: rest => checkBracketed rest
  | _ => if host.any isForbiddenInHost then .error .invalidDomainCharacter else .ok ()

/-- Replaces `%` and two hexadecimal digits by the byte that they write. -/
def percentDecode : Bytes → Bytes
  | [] => []
  | [a] => [a]
  | [a, b] => [a, b]
  | a :: b :: c :: rest =>
    let high := Char.ofNat b.toNat
    let low := Char.ofNat c.toNat
    if a = 37 ∧ Text.isHexDigit high ∧ Text.isHexDigit low then
      UInt8.ofNat (Text.hexValue high * 16 + Text.hexValue low) :: percentDecode rest
    else a :: percentDecode (b :: c :: rest)

/-- A domain name, or an address with dots. -/
def checkDomain (cs : List Char) : Except UrlError Unit :=
  match readDomain? cs with
  | none => .error .invalidInternationalDomain
  | some [] => .error .emptyHost
  | some domain =>
    if endsInNumber domain && !isIpv4 domain then .error .invalidIpv4Address else .ok ()

def checkWebHost (host : List Char) : Except UrlError Unit :=
  match host with
  | '[' :: rest => checkBracketed rest
  | _ =>
    match ofUtf8? (percentDecode (utf8 (String.ofList host))) with
    | some text => checkDomain text.toList
    | none => .error .invalidInternationalDomain

end DirectoryAuth.Url
