import WebSocket.OpCode
import WebSocket.Url.Error
import WebSocket.Violation

/-! # Errors

Everything that can go wrong, by the part of the work in which it does: the setup before any
traffic, the transport under the connection, the upgrade of the connection, the frames of the peer,
or a single call of the client's user. All but the last kind end the connection.
-/

namespace WebSocket

/-- A fault in what the connection was set up with. -/
inductive SetupError where
  | unsupportedScheme
  | missingHost
  | url (cause : Url.ParseError)
  | options (reason : String)
  | tls (detail : String)
  | serverName (name : String)
deriving DecidableEq, Repr

/-- A failure of the transport. -/
inductive TransportError where
  | io (detail : String)
  | connectTimeout
  | tlsHandshake (detail : String)
  /-- The stream ended without a close frame. -/
  | aborted
  | cancelled
deriving DecidableEq, Repr

/-- A failure of the upgrade. -/
inductive UpgradeError where
  /-- The response could not be read to its end. -/
  | failed (detail : String)
  | status (code : Nat)
  | timedOut
  | notSent (detail : String)
  | upgradeHeader
  | connectionHeader
  | acceptHeader
  | subprotocol
deriving DecidableEq, Repr

/-- Why a call of the user was refused. -/
inductive CallError where
  | notConnected
  | payloadTooLarge (size : Nat)
  | controlPayloadTooLarge (size : Nat)
  | fragmentOpCode (opcode : OpCode)
deriving DecidableEq, Repr

inductive Error where
  | setup (cause : SetupError)
  | transport (cause : TransportError)
  | upgrade (cause : UpgradeError)
  | violation (cause : Violation)
  | call (cause : CallError)
deriving DecidableEq, Repr

/-! ## Texts -/

def SetupError.message : SetupError → String
  | unsupportedScheme => "Invalid http scheme"
  | missingHost => "URL has no host"
  | url cause => cause.message
  | options reason => "Invalid options: " ++ reason
  | tls detail => "TLS configuration: " ++ detail
  | serverName name => "Invalid DNS name: " ++ name

def TransportError.message : TransportError → String
  | io detail => detail
  | connectTimeout => "TCP connect timed out"
  | tlsHandshake detail => "TLS handshake failed: " ++ detail
  | aborted => "Connection aborted unexpectedly"
  | cancelled => "Connection cancelled"

def UpgradeError.message : UpgradeError → String
  | failed detail => "Handshake failed: " ++ detail
  | status code => "Invalid status code: " ++ toString code
  | timedOut => "Handshake timed out"
  | notSent detail => "Failed to send handshake: " ++ detail
  | upgradeHeader => "Invalid upgrade header"
  | connectionHeader => "Invalid connection header"
  | acceptHeader => "Invalid Sec-WebSocket-Accept"
  | subprotocol => "Subprotocol negotiation failed"

def CallError.message : CallError → String
  | notConnected => "WebSocket is not connected"
  | payloadTooLarge size => "Payload too large (" ++ toString size ++ " bytes)"
  | controlPayloadTooLarge size => "Control payload too large (" ++ toString size ++ " bytes)"
  | fragmentOpCode opcode => "Invalid fragment opcode (" ++ opcode.name ++ ")"

def Error.message : Error → String
  | setup cause => cause.message
  | transport cause => cause.message
  | upgrade cause => cause.message
  | violation cause => cause.message
  | call cause => cause.message

end WebSocket
