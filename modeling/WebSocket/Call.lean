import WebSocket.Error
import WebSocket.Frame

/-! # Calls

What a user asks of a connection. A call is checked first: some are refused whatever the connection
does, all are refused unless it is connected, and a message without parts needs nothing to be done.
What passes becomes an order, which waits in a queue until the connection takes it.
-/

namespace WebSocket

/-- A call of the user. -/
inductive Call where
  | text (body : String)
  | binary (data : Bytes)
  | textFragment (body : String) (opcode : OpCode) (role : FragmentRole)
  | binaryFragment (data : Bytes) (opcode : OpCode) (role : FragmentRole)
  | textParts (parts : List String)
  | binaryParts (parts : List Bytes)
  | ping (data : Bytes)
  | close (reason : String)
deriving DecidableEq, Repr

/-- What the connection has to do for a call. -/
inductive Order where
  /-- Write these frames with nothing between them. -/
  | send (frames : List Frame)
  /-- Close with this reason. -/
  | close (reason : String)
deriving DecidableEq, Repr

namespace Call

/-- The order for a call. -/
def order : Call → Order
  | text body => .send [.text (Bytes.ofString body)]
  | binary data => .send [.binary data]
  | textFragment body opcode role => .send [.fragment opcode role (Bytes.ofString body)]
  | binaryFragment data opcode role => .send [.fragment opcode role data]
  | textParts parts => .send (Frame.fragments .text (parts.map Bytes.ofString))
  | binaryParts parts => .send (Frame.fragments .binary parts)
  | ping data => .send [.ping data]
  | close reason => .close reason

/-- Why a call is refused in every state: a fragment with a control opcode, a ping or a close reason
that does not fit a control frame. The status code takes two bytes of a close frame. -/
def misuse? : Call → Option CallError
  | textFragment _ opcode _ | binaryFragment _ opcode _ =>
    if opcode.isControl then some (.fragmentOpCode opcode) else none
  | ping data =>
    if maxControlPayload < data.length then some (.controlPayloadTooLarge data.length) else none
  | close reason =>
    let size := (Bytes.ofString reason).length + 2
    if maxControlPayload < size then some (.controlPayloadTooLarge size) else none
  | _ => none

/-- Checks a call: the error with which it is refused, or the order that it becomes, if any. -/
def check (call : Call) (connected : Bool) : Except CallError (Option Order) :=
  match call.misuse? with
  | some error => .error error
  | none =>
    if !connected then .error .notConnected
    else if call.order = .send [] then .ok none
    else .ok (some call.order)

end Call

end WebSocket
