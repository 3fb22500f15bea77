import WebSocket.CloseCode

/-! # Violations of the protocol

What a server can do wrong once the connection is open. Each violation ends the connection with a
close frame whose code is `closeCode` and whose reason is `message`.
-/

namespace WebSocket

/-- A way in which the peer breaks the framing rules. -/
inductive Violation where
  /-- A message begins while another one is still open. -/
  | messageInsideMessage
  /-- A continuation arrives while no message is open. -/
  | strayContinuation
  /-- A reserved bit is set although no extension was negotiated. -/
  | reservedBits
  | fragmentedControl
  /-- A control frame announces more than 125 bytes. -/
  | oversizedControl
  /-- A frame or an assembled message reaches its limit. -/
  | tooLarge
  | unknownOpCode (value : UInt8)
  /-- Servers never mask what they send. -/
  | maskedByServer
  /-- A text or a close reason is not valid UTF-8. -/
  | notUtf8
  /-- A close frame with a single byte, which is half a status code. -/
  | truncatedCloseCode
  /-- A close frame with a status code that never travels. -/
  | forbiddenCloseCode
deriving DecidableEq, Repr

namespace Violation

def message : Violation → String
  | messageInsideMessage => "Invalid fragment"
  | strayContinuation => "Invalid continuation frame"
  | reservedBits => "Reserved bits are not zero"
  | fragmentedControl => "Control frame must not be fragmented"
  | oversizedControl => "Control frame too large"
  | tooLarge => "Frame too large"
  | unknownOpCode value => "Invalid opcode (byte=" ++ toString value.toNat ++ ")"
  | maskedByServer => "Received a masked frame from the server"
  | notUtf8 => "Invalid UTF-8"
  | truncatedCloseCode => "Invalid close frame"
  | forbiddenCloseCode => "Invalid close code"

/-- The status code with which the violation is answered. -/
def closeCode : Violation → CloseCode
  | tooLarge => .tooBig
  | unknownOpCode _ => .unsupported
  | notUtf8 => .invalidData
  | _ => .protocol

end Violation

end WebSocket
