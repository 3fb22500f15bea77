import WebSocket.Connection.Run

/-! # Connections and the world

How a connection begins, and what can happen to it from outside. Whatever happens, the connection
then runs until it has nothing left to do; several things can happen before it does.
-/

namespace WebSocket.Connection

/-! ## Beginnings -/

/-- A connection that has done nothing but report its first state. -/
def fresh (url : Url) (options : Options) (nonce : Bytes) (keys : Nat → MaskKey) (phase : Phase) :
    Connection :=
  let decoder : Decoder := { limit := options.payloadLimit }
  let assembly := Assembly.empty options.messageLimit
  let connection : Connection := { url, options, nonce, keys, phase, decoder, assembly }
  connection.report (.entered .initialized)

/-- A connection over a stream that is already open. -/
def attach (url : Url) (options : Options) (nonce : Bytes) (keys : Nat → MaskKey) : Connection :=
  (fresh url options nonce keys .ended).startUpgrade .streamConnected

/-- A connection over a stream that is already open, if the options are valid. -/
def attach? (url : Url) (options : Options) (nonce : Bytes) (keys : Nat → MaskKey) :
    Except SetupError Connection := do
  options.validate
  return attach url options nonce keys

/-- Whether a scheme asks for TLS, if it can be connected to at all. -/
def isSecure? (scheme : String) : Option Bool :=
  if scheme = "ws" || scheme = "http" then some false
  else if scheme = "wss" || scheme = "https" then some true
  else none

/-- A connection whose socket is still to be opened. Of several faults the first one in this order
counts: options, scheme, host, port, TLS policy. A policy that is brought along ready for use is not
checked again. -/
def dial? (url : Url) (options : Options) (policyReady : Bool) (nonce : Bytes)
    (keys : Nat → MaskKey) : Except SetupError Connection := do
  options.validate
  let some secure := isSecure? url.scheme | throw .unsupportedScheme
  if url.host.isNone then throw .missingHost
  if url.dialPort?.isNone then throw .unsupportedScheme
  if secure && !policyReady then options.tls.check
  let connection := fresh url options nonce keys (.dialing secure options.connectTimeout none)
  return connection.enter .connectingSocket

/-! ## What can happen -/

inductive Input where
  /-- Bytes arrive from the peer. -/
  | arrive (bytes : Bytes)
  /-- Reading ends after all that has arrived. -/
  | finish (ending : StreamEnd)
  | setWrites (mode : WriteMode)
  | call (call : Call)
  /-- A user takes a further handle for sending. -/
  | takeSender
  | dropSender
  /-- The handle that reads the events is dropped. -/
  | dropSocket
  /-- Time passes, in milliseconds. -/
  | advance (time : Nat)
  | cancel
  /-- The socket has opened or failed. -/
  | socket (outcome : Except TransportError Unit)
  /-- The TLS exchange has succeeded or failed. -/
  | secure (outcome : Except TransportError Unit)

/-- What an input changes by itself, before the connection goes on. -/
def apply (connection : Connection) : Input → Connection
  | .arrive bytes => { connection with stream := connection.stream.arrive bytes }
  | .finish ending => { connection with stream := connection.stream.finish ending }
  | .setWrites mode => { connection with stream := connection.stream.setWrites mode }
  | .call call =>
    { connection with callers := connection.callers.call call connection.isConnected }
  | .takeSender => { connection with callers := connection.callers.takeSender }
  | .dropSender => { connection with callers := { connection.callers with senderHeld := false } }
  | .dropSocket => { connection with callers := { connection.callers with socketHeld := false } }
  | .advance time => { connection with now := connection.now + time }
  | .cancel => { connection with cancelled := true }
  | .socket outcome =>
    match connection.phase with
    | .dialing secure deadline _ =>
      { connection with phase := .dialing secure deadline (some outcome) }
    | _ => connection
  | .secure outcome =>
    match connection.phase with
    | .securing _ => { connection with phase := .securing (some outcome) }
    | _ => connection

/-- Several inputs at once, and all that follows from them. -/
def play (connection : Connection) (inputs : List Input) : Connection :=
  (inputs.foldl apply connection).run

/-- Groups of inputs, one after the other. -/
def playAll (connection : Connection) (script : List (List Input)) : Connection :=
  script.foldl play connection

end WebSocket.Connection
