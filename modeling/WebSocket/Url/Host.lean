import WebSocket.Url.Domain
import WebSocket.Url.Ipv4
import WebSocket.Url.Ipv6
import WebSocket.Url.Percent

/-! # Hosts

A host is an IPv6 address in brackets, an IPv4 address, or a name. The schemes of the web take
names as domain names; other schemes keep them as they are.
-/

namespace WebSocket.Url.Host

/-- An IPv6 address with its brackets. The closing bracket has to be the last character. -/
def bracketed (chars : List Char) : Except ParseError String :=
  if chars.getLast? = some ']' then
    (Ipv6.parse (chars.drop 1).dropLast).map fun groups => "[" ++ Ipv6.render groups ++ "]"
  else .error .invalidIpv6

/-- A host of a scheme of the web. -/
def parse (chars : List Char) : Except ParseError String :=
  if chars.head? = some '[' then bracketed chars
  else
    match Bytes.text? (Percent.decode chars) with
    | none => .error .invalidDomain
    | some text => do
      let domain ← Domain.toAscii text.toList
      if domain.isEmpty then throw .emptyHost
      if Ipv4.endsInNumber domain then return Ipv4.render (← Ipv4.parse domain)
      return .ofList domain

/-- The characters that no host of any scheme holds. -/
def isForbidden (c : Char) : Bool :=
  "\x00\t\n\r #/:<>?@[\\]^|".toList.contains c

/-- A host of any other scheme. -/
def parseOpaque (chars : List Char) : Except ParseError String :=
  if chars.head? = some '[' then bracketed chars
  else if chars.any isForbidden then .error .invalidHostCharacter
  else .ok (.ofList (Percent.encode Percent.isControl chars))

end WebSocket.Url.Host
