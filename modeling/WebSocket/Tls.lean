import WebSocket.Bytes
import WebSocket.Error
import WebSocket.Tls.Root
import WebSocket.Url.Ipv4
import WebSocket.Url.Ipv6

/-! # TLS policy

Which servers a secure connection trusts, and under which name it looks for them. The TLS exchange
itself happens elsewhere; this module holds the decisions that are the client's own: protocol
versions, trusted roots, what to make of the outcome of standard verification, and whether a host
can be a server name at all.
-/

namespace WebSocket

inductive TlsVersion where
  | tls12
  | tls13
deriving DecidableEq, Repr

def TlsVersion.name : TlsVersion → String
  | tls12 => "Tls12"
  | tls13 => "Tls13"

/-- How a user judges certificates, given whether standard verification succeeded. -/
abbrev CertificateJudge := Bool → Bool

structure TlsPolicy where
  /-- The versions that are enabled; none stands for all. -/
  versions : List TlsVersion := []
  /-- Roots trusted beside the usual ones, in DER. -/
  roots : List Bytes := []
  /-- Accept whatever certificate a server has. -/
  ignoreErrors : Bool := false
  /-- Overrides the outcome of verification. -/
  judge : Option CertificateJudge := none

namespace TlsPolicy

/-- A one-line summary that shows no certificate. -/
def summary (policy : TlsPolicy) : String :=
  "TlsOptions \x7B versions: [" ++ String.intercalate ", " (policy.versions.map TlsVersion.name)
    ++ "], root_certificates: " ++ toString policy.roots.length
    ++ ", ignore_server_certificate_errors: " ++ toString policy.ignoreErrors
    ++ ", certificate_validation: " ++ toString policy.judge.isSome ++ " \x7D"

/-- The versions that the client offers. -/
def enabledVersions (policy : TlsPolicy) : List TlsVersion :=
  if policy.versions.isEmpty then [.tls12, .tls13] else policy.versions

/-- Whether a certificate is accepted, given whether standard verification succeeded. A judge has
the last word. -/
def accepts (policy : TlsPolicy) (verified : Bool) : Bool :=
  match policy.judge with
  | some judge => judge verified
  | none => verified || policy.ignoreErrors

/-- What a client can know of a TLS server: its versions, the names in its certificate, and the root
that signed it. -/
structure Server where
  versions : List TlsVersion
  names : List String
  root : TrustAnchor
deriving DecidableEq, Repr

/-- Whether one of the roots is the given one, whatever else its certificate says. -/
def trusts (policy : TlsPolicy) (root : TrustAnchor) : Bool :=
  policy.roots.any fun certificate => (TrustAnchor.ofCertificate certificate).toOption = some root

/-- Whether the exchange with a server that is looked for under a name comes to a secure stream. -/
def opens (policy : TlsPolicy) (server : Server) (name : String) : Bool :=
  policy.enabledVersions.any server.versions.contains
    && policy.accepts (policy.trusts server.root && server.names.contains name)

end TlsPolicy

/-- Checks that a policy can be put to work. -/
def TlsPolicy.check (policy : TlsPolicy) : Except SetupError Unit :=
  policy.roots.forM fun root =>
    match TrustAnchor.ofCertificate root with
    | .ok _ => .ok ()
    | .error fault => .error (.tls fault.message)

/-! ## Server names -/

/-- Whether a label can stand in a server name: 1 to 63 letters, digits, hyphens and underscores,
with no hyphen at either end. -/
def isNameLabel (label : List Char) : Bool :=
  !label.isEmpty && label.length ≤ 63
    && label.all (fun c => c.isAlphanum || c = '-' || c = '_')
    && label.head? ≠ some '-' && label.getLast? ≠ some '-'

/-- Whether a host is a DNS name: labels with dots between them, perhaps one after the last label,
which must not be a number. -/
def isDnsName (host : List Char) : Bool :=
  let labels := host.splitOn '.'
  let labels := if labels.getLast? = some [] then labels.dropLast else labels
  host.length ≤ 253 && !labels.isEmpty && labels.all isNameLabel
    && !(labels.getLastD []).all Char.isDigit

/-- The name under which a server is looked for: an IP address, without brackets, or a DNS name. -/
def serverName (host : String) : Except SetupError String :=
  let chars := host.toList.dropWhile (· = '[')
  let chars := (chars.reverse.dropWhile (· = ']')).reverse
  let isAddress := (Url.Ipv6.parse chars).isOk
    || ((chars.splitOn '.').length = 4 && (chars.splitOn '.').all fun part =>
      (Url.Ipv6.ipv4Byte? part).isSome)
  if isAddress || isDnsName chars then .ok (.ofList chars)
  else .error (.serverName (.ofList chars))

end WebSocket
