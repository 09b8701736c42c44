import StatusBoard.Url.Idna
import StatusBoard.Url.Ip
import StatusBoard.Url.ParseError
import StatusBoard.Url.Percent

/-!
Hosts of URLs. Special URLs have a domain name or an address; other URLs take any name without
delimiters as it is.
-/
namespace StatusBoard.Url

inductive Host where
  | name (s : String)
  | ipv4 (n : Nat)
  | ipv6 (pieces : List Nat)
deriving DecidableEq, Repr

namespace Host

/-- The host that stands for none. -/
def empty : Host := .name ""

def text : Host → String
  | .name s => s
  | .ipv4 n => Ipv4.text n
  | .ipv6 ps => "[" ++ Ipv6.text ps ++ "]"

/-- An address in brackets. -/
def bracketed (cs : List Char) : Except ParseError Host :=
  if cs.getLast? = some ']' then
    match Ipv6.parse? cs.dropLast with
    | some ps => .ok (.ipv6 ps)
    | none => .error .invalidIpv6Address
  else .error .invalidIpv6Address

/-- The host of a special URL: percent-decoded, then brought to its ASCII form. -/
def parseSpecial (cs : List Char) : Except ParseError Host :=
  match cs with
  | '[' :: r => bracketed r
  | cs =>
    match Idna.toAscii? (Percent.decode (String.ofList cs).toUTF8.toList) with
    | none => .error .idna
    | some [] => .error .emptyHost
    | some domain =>
      if Ipv4.isMeant domain then
        match Ipv4.parse? domain with
        | some n => .ok (.ipv4 n)
        | none => .error .invalidIpv4Address
      else .ok (.name (String.ofList domain))

/-- Characters that no host may hold. -/
def isForbidden (c : Char) : Bool :=
  c ∈ ['\x00', '\t', '\n', '\r', ' ', '#', '/', ':', '<', '>', '?', '@', '[', '\\', ']', '^', '|']

/-- The host of any other URL. -/
def parseOpaque (cs : List Char) : Except ParseError Host :=
  match cs with
  | '[' :: r => bracketed r
  | cs =>
    if cs.any isForbidden then .error .invalidDomainCharacter
    else .ok (.name (String.ofList (Percent.encode Percent.inControls cs)))

end Host

end StatusBoard.Url
