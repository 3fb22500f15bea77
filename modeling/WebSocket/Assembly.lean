import WebSocket.Frame
import WebSocket.Violation

/-! # Assembling fragmented messages

A data message may come in fragments: an opening text or binary frame without the final bit, then
continuations up to the one with the final bit. An assembly collects the payloads of the message
that is open. Control frames may come between fragments and pass through untouched.
-/

namespace WebSocket

/-- The state of message assembly. -/
structure Assembly where
  /-- The size from which on a fragmented message is refused. -/
  limit : Nat
  /-- The opcode of the message that is open. -/
  opener : Option OpCode
  /-- The payloads collected so far, last one first. -/
  parts : List Bytes
  /-- How many bytes they hold. -/
  size : Nat
  size_eq : size = parts.reverse.flatten.length
deriving DecidableEq, Repr

namespace Assembly

/-- The state in which no message is open. -/
def empty (limit : Nat) : Assembly where
  limit
  opener := none
  parts := []
  size := 0
  size_eq := rfl

/-- The bytes collected so far. -/
def collected (assembly : Assembly) : Bytes :=
  assembly.parts.reverse.flatten

@[simp] theorem length_collected (assembly : Assembly) :
    assembly.collected.length = assembly.size :=
  assembly.size_eq.symm

/-- Adds a payload to the bytes collected so far. -/
def extend (assembly : Assembly) (payload : Bytes) : Assembly :=
  { assembly with
    parts := payload :: assembly.parts
    size := assembly.size + payload.length
    size_eq := by simp [assembly.size_eq] }

@[simp] theorem collected_extend (assembly : Assembly) (payload : Bytes) :
    (assembly.extend payload).collected = assembly.collected ++ payload := by
  simp [collected, extend]

/-- Collects one fragment. The bytes are kept even when they reach the limit, so that a message
which was refused once stays refused. -/
def collect (assembly : Assembly) (payload : Bytes) : Except Violation Unit × Assembly :=
  let extended := assembly.extend payload
  (if extended.size < extended.limit then .ok () else .error .tooLarge, extended)

/-- Takes the next frame. A frame comes out when it is complete by itself, or when it completes the
open message, which then carries the opcode of its opening frame. -/
def push (assembly : Assembly) (frame : Frame) : Except Violation (Option Frame) × Assembly :=
  match frame.opcode with
  | .text | .binary =>
    if assembly.opener.isSome then (.error .messageInsideMessage, assembly)
    else if frame.fin then (.ok (some frame), assembly)
    else
      let (outcome, after) := { assembly with opener := some frame.opcode }.collect frame.payload
      (outcome.map fun _ => none, after)
  | .continuation =>
    match assembly.opener with
    | none => (.error .strayContinuation, assembly)
    | some opcode =>
      match assembly.collect frame.payload with
      | (.error violation, after) => (.error violation, after)
      | (.ok (), after) =>
        if frame.fin then
          (.ok (some { frame with opcode, payload := after.collected }), empty after.limit)
        else (.ok none, after)
  | .close | .ping | .pong => (.ok (some frame), assembly)

end Assembly

end WebSocket
