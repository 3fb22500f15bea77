/-! # Faults of a URL
-/

namespace WebSocket.Url

/-- Why a text is not a URL that stands on its own. -/
inductive ParseError where
  | relativeWithoutBase
  | emptyHost
  | invalidPort
  | invalidIpv4
  | invalidIpv6
  /-- A domain with a character that no domain name can hold. -/
  | invalidDomain
  /-- A host of a scheme without domain names, with a character that no host can hold. -/
  | invalidHostCharacter
deriving DecidableEq, Repr

def ParseError.message : ParseError → String
  | relativeWithoutBase => "relative URL without a base"
  | emptyHost => "empty host"
  | invalidPort => "invalid port number"
  | invalidIpv4 => "invalid IPv4 address"
  | invalidIpv6 => "invalid IPv6 address"
  | invalidDomain => "invalid international domain name"
  | invalidHostCharacter => "invalid domain character"

end WebSocket.Url
