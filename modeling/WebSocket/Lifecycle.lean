import WebSocket.Error
import WebSocket.Frame

/-! # The life of a connection

A connection walks through a fixed set of states from `initialized` to one of three ends. Whoever
watches it sees an event for every state that it enters, for every message that it receives and for
the outcome of everything that it sends.
-/

namespace WebSocket

/-- Where a connection stands. -/
inductive ConnectionState where
  | initialized
  | connectingSocket
  | socketConnected
  | connectingStream
  | streamConnected
  | secureStreamConnected
  | upgrading
  | upgraded
  | connected
  | disconnecting
  | disconnected
  | aborted
  | connectionFailed
deriving DecidableEq, Repr

namespace ConnectionState

/-- Whether the connection is over. -/
def isTerminal : ConnectionState → Bool
  | disconnected | aborted | connectionFailed => true
  | _ => false

/-- Whether a state may directly follow another one. -/
def canBecome (state next : ConnectionState) : Bool :=
  !state.isTerminal &&
    match state, next with
    | _, aborted => true
    | initialized, connectingSocket => true
    | initialized, streamConnected => true
    | connectingSocket, socketConnected => true
    | socketConnected, connectingStream => true
    | connectingStream, streamConnected => true
    | connectingStream, secureStreamConnected => true
    | streamConnected, upgrading => true
    | secureStreamConnected, upgrading => true
    | upgrading, upgraded => true
    | upgraded, connected => true
    | connected, disconnecting => true
    | disconnecting, disconnected => true
    | initialized, connectionFailed => true
    | connectingSocket, connectionFailed => true
    | socketConnected, connectionFailed => true
    | connectingStream, connectionFailed => true
    | _, _ => false

end ConnectionState

/-- What an event is about. -/
inductive ConnectionStatus where
  /-- The connection entered a state. -/
  | entered (state : ConnectionState)
  | upgradeFailed
  | upgradeTimedOut
  | dataReceived
  | pingReceived
  | pongReceived
  | pingSent
  | pongSent
  | closeReceived
  | sendComplete
  | sendFailed
deriving DecidableEq, Repr

/-- An event, with the frame that it is about when it reports one. -/
structure Event where
  status : ConnectionStatus
  frame : Option Frame := none
deriving DecidableEq, Repr

/-- What stands on the event stream: events, and at its end perhaps the error that ended the
connection. -/
inductive StreamItem where
  | event (event : Event)
  | failure (error : Error)
deriving DecidableEq, Repr

end WebSocket
