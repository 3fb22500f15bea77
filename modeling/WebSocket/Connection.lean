import WebSocket.Assembly
import WebSocket.ByteStream
import WebSocket.Callers
import WebSocket.Frame.Decoder
import WebSocket.Frame.Wire
import WebSocket.Http.HeadScanner
import WebSocket.KeepAlive
import WebSocket.Lifecycle
import WebSocket.Options
import WebSocket.Upgrade

/-! # Connections

A connection as one value: what it was set up with, the stream under it, how far it has come, and
the record of all that could be seen of it from outside. Chance enters through two fields only, the
nonce of the request and the sequence of masking keys.
-/

namespace WebSocket

/-- A write that is under way. Nothing else happens before it has succeeded or failed. -/
inductive Job where
  /-- The frames of an order. -/
  | command (id : Nat) (frames : List Frame)
  | keepAlive
  /-- The answer to a ping. -/
  | pong (frame : Frame)
  /-- The client's own close, with the call that asked for it. -/
  | close (reason : String) (id : Option Nat)
  /-- The answer to the peer's close. -/
  | echo (frame : Frame)
  /-- The close with which a violation is answered. -/
  | refusal (cause : Violation)
deriving DecidableEq, Repr

/-- How far a connection has come. -/
inductive Phase where
  /-- Waits for the socket. The outcome is there once the socket has opened or failed. -/
  | dialing (secure : Bool) (deadline : Nat) (outcome : Option (Except TransportError Unit))
  /-- Waits for the TLS exchange. -/
  | securing (outcome : Option (Except TransportError Unit))
  /-- The upgrade request is to be written. -/
  | requesting (deadline : Nat)
  /-- The response head is being read. -/
  | awaitingHead (request : UpgradeRequest) (deadline : Nat) (reader : Http.HeadReader)
  /-- Frames go both ways and no write is under way. -/
  | connected
  | writing (job : Job)
  /-- The client's close frame is out, the peer's is awaited. -/
  | awaitingClose (deadline : Nat)
  | ended

/-- What the client has written. -/
inductive Written where
  | request (sent : UpgradeRequest)
  | frame (key : MaskKey) (sent : Frame)
deriving DecidableEq, Repr

/-- What was written as it travels. -/
def Written.bytes : Written → Bytes
  | request sent => sent.bytes
  | frame key sent => sent.masked .littleEndian key

structure Connection where
  url : Url
  options : Options
  /-- The random bytes of the request's key. -/
  nonce : Bytes
  /-- The masking keys in the order in which they are drawn. -/
  keys : Nat → MaskKey
  now : Nat := 0
  /-- Whether the connection was told to stop. -/
  cancelled : Bool := false
  stream : ByteStream := {}
  phase : Phase
  /-- Holds the part of a frame that has been read. -/
  decoder : Decoder
  /-- The message that is being received. -/
  assembly : Assembly
  keepAlive : Option KeepAlive := none
  callers : Callers := {}
  subprotocol : Option String := none
  state : ConnectionState := .initialized
  /-- Every state so far, the present one last. -/
  states : Array ConnectionState := #[.initialized]
  /-- What stood on the event stream while someone held it. -/
  items : Array StreamItem := #[]
  written : Array Written := #[]

namespace Connection

/-! ## What can be seen -/

def isOver (connection : Connection) : Bool :=
  match connection.phase with
  | .ended => true
  | _ => false

/-- Whether calls are accepted. -/
def isConnected (connection : Connection) : Bool :=
  connection.state = .connected

/-- The calls that have no answer yet, oldest first. -/
def pending (connection : Connection) : List Nat :=
  let underWay := match connection.phase with
    | .writing (.command id _) | .writing (.close _ (some id)) => [id]
    | _ => []
  underWay ++ (connection.callers.queue ++ connection.callers.waiting).map Command.id

/-- All bytes that the client has written. -/
def wire (connection : Connection) : Bytes :=
  connection.written.toList.flatMap Written.bytes

/-! ## Recording -/

/-- Puts an item on the event stream, if anyone holds it. -/
def emit (connection : Connection) (item : StreamItem) : Connection :=
  { connection with
    items :=
      if connection.callers.socketHeld then connection.items.push item else connection.items }

def report (connection : Connection) (status : ConnectionStatus) : Connection :=
  connection.emit (.event { status })

def reportFrame (connection : Connection) (status : ConnectionStatus) (frame : Frame) :
    Connection :=
  connection.emit (.event { status, frame := some frame })

/-- Enters a state and reports it. -/
def enter (connection : Connection) (state : ConnectionState) : Connection :=
  { connection with state, states := connection.states.push state }.report (.entered state)

def answer (connection : Connection) (id : Nat) (error : Option Error) : Connection :=
  { connection with callers := connection.callers.answer id error }

/-- The connection after a part of its inbox was read. -/
def withInbox (connection : Connection) (inbox : Bytes) : Connection :=
  { connection with stream := { connection.stream with inbox } }

/-- The connection after a call of its decoder. -/
def afterDecoding (connection : Connection) (decoded : Decoded) : Connection :=
  { connection.withInbox decoded.rest with decoder := decoded.decoder }

def shutDown (connection : Connection) : Connection :=
  { connection with stream := { connection.stream with isShut := true } }

/-- Records frames as written, each under a key of its own. -/
def record (connection : Connection) (frames : List Frame) : Connection :=
  { connection with
    written := frames.foldl (fun written frame =>
      written.push (.frame (frame.writingKey (connection.keys written.size)) frame))
      connection.written }

/-! ## Endings -/

/-- Ends in a state: orders that were not taken are answered. -/
def finish (connection : Connection) (state : ConnectionState) : Connection :=
  let ended := connection.enter state
  { ended with phase := .ended, callers := ended.callers.release }

/-- Ends in a state with an error as the last item. -/
def fail (connection : Connection) (state : ConnectionState) (error : Error) : Connection :=
  let ended := (connection.enter state).emit (.failure error)
  { ended with phase := .ended, callers := ended.callers.release }

/-- Ends after a failure of the upgrade. Of the errors that can occur then, those of the upgrade
itself have a status of their own. -/
def failUpgrade (connection : Connection) (error : Error) : Connection :=
  let reported := match error with
    | .upgrade .timedOut => connection.report .upgradeTimedOut
    | .upgrade _ => connection.report .upgradeFailed
    | _ => connection
  reported.shutDown.fail .aborted error

/-- Ends after both close frames, or in their stead the end of the wait. -/
def finishClosing (connection : Connection) : Connection :=
  connection.shutDown.finish .disconnected

end Connection

end WebSocket
