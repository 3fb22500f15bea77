import WebSocket.Frame
import WebSocket.Http.Header
import WebSocket.Text.Blank
import WebSocket.Tls

/-! # Connection options

Limits, timeouts, keep-alive pings and what is sent with the upgrade request. All times are in
milliseconds. `Options.validate` refuses values with which no connection can work.
-/

namespace WebSocket

/-- The usual bound on the payload of one frame. -/
def defaultPayloadLimit : Nat := 1024 * 1024

/-- The usual bound on an assembled message. -/
def defaultMessageLimit : Nat := 2 * 1024 * 1024

/-- The largest number that a limit can be. -/
def largestLimit : Nat := 0xFFFFFFFFFFFFFFFF

structure Options where
  /-- The payload size from which on a frame is refused. -/
  maxPayload : Option Nat := none
  /-- The size from which on a fragmented message is refused. -/
  maxMessage : Option Nat := none
  /-- Whether text messages have to be valid UTF-8. -/
  checkUtf8 : Bool := false
  origin : Option String := none
  headers : Http.Headers := {}
  /-- The subprotocols asked for, best first. -/
  subprotocols : List String := []
  /-- Whether pings are sent to keep the connection alive. -/
  keepAlive : Bool := false
  keepAliveInterval : Nat := 30000
  keepAliveMessage : Option Bytes := none
  connectTimeout : Nat := 15000
  /-- Bounds the whole upgrade exchange. -/
  upgradeTimeout : Nat := 30000
  /-- Bounds the wait for the peer's close frame. -/
  closeTimeout : Nat := 5000
  /-- Whether an empty ping is answered with an empty pong, and not with a single zero byte. -/
  emptyPong : Bool := true
  tls : TlsPolicy := {}

namespace Options

def withOrigin (options : Options) (origin : String) : Options :=
  { options with origin := some origin }

/-- Adds a header line to the request. At full headers (`Http.Headers.isFull`) the program stops. -/
def withHeader (options : Options) (name : Http.HeaderName) (value : Http.HeaderValue) : Options :=
  { options with headers := options.headers.append name value }

/-- Adds all lines of other headers to the request. The program stops at the first of them that
comes to full headers. -/
def withHeaders (options : Options) (headers : Http.Headers) : Options :=
  { options with headers := options.headers.merge headers }

/-- Asks for one more subprotocol. -/
def withSubprotocol (options : Options) (name : String) : Options :=
  { options with subprotocols := options.subprotocols ++ [name] }

/-- Asks for more subprotocols, best first. -/
def withSubprotocols (options : Options) (names : List String) : Options :=
  { options with subprotocols := options.subprotocols ++ names }

/-- Turns keep-alive pings on. -/
def withKeepAlive (options : Options) (interval : Nat) : Options :=
  { options with keepAlive := true, keepAliveInterval := interval }

/-- The payload size from which on a frame is refused. -/
def payloadLimit (options : Options) : Nat :=
  options.maxPayload.getD defaultPayloadLimit

/-- The size from which on a fragmented message is refused: as set, or else twice the payload limit
that is set. -/
def messageLimit (options : Options) : Nat :=
  match options.maxMessage, options.maxPayload with
  | some limit, _ => limit
  | none, some payload => min (2 * payload) largestLimit
  | none, none => defaultMessageLimit

/-- Checks the options. Of several faults the first one in this order counts. -/
def validate (options : Options) : Except SetupError Unit :=
  if options.connectTimeout = 0 then .error (.options "connect timeout is zero")
  else if options.upgradeTimeout = 0 then .error (.options "handshake timeout is zero")
  else if options.closeTimeout = 0 then .error (.options "close timeout is zero")
  else if options.keepAlive && options.keepAliveInterval = 0 then
    .error (.options "client ping interval is zero")
  else if maxControlPayload < (options.keepAliveMessage.getD []).length then
    .error (.options "client ping message exceeds 125 bytes")
  else if options.subprotocols.any Text.isBlankText then
    .error (.options "blank subprotocol name")
  else if options.maxPayload = some 0 || options.maxMessage = some 0 then
    .error (.options "zero payload limit")
  else .ok ()

end Options

end WebSocket
