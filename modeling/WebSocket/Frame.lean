import WebSocket.Bytes
import WebSocket.CloseCode
import WebSocket.Mask
import WebSocket.OpCode

/-! # Frames

The unit in which the two ends talk. A frame keeps its payload in the clear; the masking key stands
beside it, as it was read from the wire or as it is to be used on the wire. This module builds
frames, splits a message into fragments and reads a frame's payload in the ways that its uses ask
for.
-/

namespace WebSocket

/-- The most bytes that a control frame may carry. -/
def maxControlPayload : Nat := 125

/-- One frame. The three reserved bits are clear unless an extension gives them a meaning. -/
structure Frame where
  /-- The last fragment of its message. -/
  fin : Bool := true
  rsv1 : Bool := false
  rsv2 : Bool := false
  rsv3 : Bool := false
  opcode : OpCode
  /-- The key seen on the wire, or the key to be used there. -/
  mask : Option MaskKey := none
  /-- The payload in the clear. -/
  payload : Bytes := []
deriving DecidableEq, Repr

/-- Where a fragment stands in its message. -/
inductive FragmentRole where
  /-- Neither opens nor ends a message of several frames. -/
  | none
  /-- Opens a message of several frames. -/
  | first
  /-- Ends a message of several frames. -/
  | last
deriving DecidableEq, Repr

namespace Frame

/-! ## Building frames -/

def text (payload : Bytes) : Frame := { opcode := .text, payload }

def binary (payload : Bytes) : Frame := { opcode := .binary, payload }

def ping (payload : Bytes) : Frame := { opcode := .ping, payload }

def pong (payload : Bytes) : Frame := { opcode := .pong, payload }

/-- A close frame whose payload is taken as it is. -/
def closeRaw (payload : Bytes) : Frame := { opcode := .close, payload }

/-- A close frame with a status code and the bytes of a reason. -/
def close (code : CloseCode) (reason : Bytes) : Frame :=
  closeRaw (Bytes.writeBe 2 code.toUInt16.toNat ++ reason)

/-- One frame of a message. A data opcode without a role makes a whole message, a continuation
without a role a middle fragment; an opening frame keeps its opcode and an ending one is a
continuation. -/
def fragment (opcode : OpCode) (role : FragmentRole) (payload : Bytes) : Frame :=
  match role with
  | .none => { fin := opcode != .continuation, opcode, payload }
  | .first => { fin := false, opcode, payload }
  | .last => { fin := true, opcode := .continuation, payload }

/-- The frames that follow the opening one: middle fragments and then the ending one. -/
def laterFragments : List Bytes → List Frame
  | [] => []
  | [part] => [fragment .continuation .last part]
  | part :: parts => fragment .continuation .none part :: laterFragments parts

/-- A message as one frame per part. A single part needs no fragmentation. -/
def fragments (opcode : OpCode) : List Bytes → List Frame
  | [] => []
  | [part] => [fragment opcode .none part]
  | part :: parts => fragment opcode .first part :: laterFragments parts

@[simp] theorem length_fragments (opcode : OpCode) (parts : List Bytes) :
    (fragments opcode parts).length = parts.length := by
  have later (parts : List Bytes) : (laterFragments parts).length = parts.length := by
    fun_induction laterFragments parts <;> simp_all
  unfold fragments
  split <;> simp [later]

/-! ## Reading frames -/

def isMasked (frame : Frame) : Bool := frame.mask.isSome

/-- Whether the payload is valid UTF-8, whatever the opcode. -/
def isUtf8 (frame : Frame) : Bool := frame.payload.isUtf8

/-- The text of a text frame whose payload is valid UTF-8. -/
def message? (frame : Frame) : Option String :=
  if frame.opcode = .text then frame.payload.text? else Option.none

/-- The status code in the first two bytes of the payload. -/
def closeCode? (frame : Frame) : Option CloseCode :=
  match frame.payload with
  | high :: low :: _ => some (.ofUInt16 (.ofNat (Bytes.readBe [high, low])))
  | _ => Option.none

/-- The text behind the status code, when it is valid UTF-8. -/
def closeReason? (frame : Frame) : Option String :=
  match frame.payload with
  | _ :: _ :: reason => Bytes.text? reason
  | _ => Option.none

end Frame

end WebSocket
