import WebSocket.Frame
import WebSocket.Violation

/-! # Answers to control frames

A ping is answered with a pong that carries the same payload, a close frame with a close frame that
repeats its status code. A close frame is checked before it is answered.
-/

namespace WebSocket

/-- What a received control frame asks for. -/
inductive ControlAnswer where
  | pong (frame : Frame)
  /-- A pong arrived, which asks for nothing. -/
  | nothing
  /-- The peer closes; the frame is the echo to be written. -/
  | close (echo : Frame)
deriving DecidableEq, Repr

/-- The pong for a ping. An empty ping is answered with a single zero byte when empty pongs are not
wanted. -/
def Frame.pongFor (emptyPong : Bool) (ping : Frame) : Frame :=
  if ping.payload.isEmpty && !emptyPong then .pong [0] else .pong ping.payload

/-- The echo for a close frame. Of several faults the first one in this order counts: half a status
code, a code that never travels, a reason that is not UTF-8. -/
def Frame.closeEcho (frame : Frame) : Except Violation Frame :=
  match frame.payload with
  | [] => .ok (.closeRaw [])
  | [_] => .error .truncatedCloseCode
  | high :: low :: reason =>
    let code := CloseCode.ofUInt16 (.ofNat (Bytes.readBe [high, low]))
    if !code.isAllowed then .error .forbiddenCloseCode
    else if !Bytes.isUtf8 reason then .error .notUtf8
    else .ok (.close code [])

/-- What a frame asks for when it is a control frame. -/
def Frame.controlAnswer (emptyPong : Bool) (frame : Frame) :
    Except Violation (Option ControlAnswer) :=
  match frame.opcode with
  | .ping => .ok (some (.pong (frame.pongFor emptyPong)))
  | .pong => .ok (some .nothing)
  | .close => frame.closeEcho.map fun echo => some (.close echo)
  | .continuation | .text | .binary => .ok none

end WebSocket
