import WebSocket.Frame

/-! # Frames on the wire

A frame travels as two bytes of flags, opcode and length code, then the rest of the length where
the code asks for it, then the masking key of a masked frame, then the payload under that key.
`Frame.head` writes the shortest of the three forms of the length. What a client writes is always
masked (`Frame.encodeInto?`); `Frame.plain` is the form that servers use.
-/

namespace WebSocket.Frame

/-- The longest payload that the 63 usable bits of the longest length form can announce. -/
def maxPayload : Nat := 0x7FFFFFFFFFFFFFFF

/-- Final bit, reserved bits and opcode. -/
def firstByte (frame : Frame) : UInt8 :=
  (if frame.fin then 0x80 else 0) ||| (if frame.rsv1 then 0x40 else 0) |||
    (if frame.rsv2 then 0x20 else 0) ||| (if frame.rsv3 then 0x10 else 0) ||| frame.opcode.toUInt8

/-- The length code, which fills the low seven bits of the second byte, and what follows it. -/
def lengthForm (length : Nat) : UInt8 × Bytes :=
  if length < 126 then (.ofNat length, [])
  else if length < 65536 then (126, Bytes.writeBe 2 length)
  else (127, Bytes.writeBe 8 length)

/-- All that stands before the payload, with the key when there is one. -/
def head (frame : Frame) (key : Option MaskKey) : Bytes :=
  let (code, extension) := lengthForm frame.payload.length
  match key with
  | some key => frame.firstByte :: (0x80 ||| code) :: (extension ++ key.toBytes)
  | none => frame.firstByte :: code :: extension

/-- The masked form of a frame under a given key. -/
def masked (frame : Frame) (order : ByteOrder) (key : MaskKey) : Bytes :=
  frame.head (some key) ++ key.apply order frame.payload

/-- The form without a mask. -/
def plain (frame : Frame) : Bytes :=
  frame.head none ++ frame.payload

/-- The key under which a frame is written: its own, or else the fresh one. -/
def writingKey (frame : Frame) (fresh : MaskKey) : MaskKey :=
  frame.mask.getD fresh

/-- Appends what a client writes for a frame to a buffer: the head, and the payload, which is masked
where it then stands. There is nothing to write when no length form can announce the payload. -/
def encodeInto? (frame : Frame) (order : ByteOrder) (fresh : MaskKey) (buffer : Bytes) :
    Option Bytes :=
  if frame.payload.length ≤ maxPayload then
    let key := frame.writingKey fresh
    let headed := buffer ++ frame.head (some key)
    some (key.applyFrom order headed.length (headed ++ frame.payload))
  else none

/-- What a client writes for a frame, if it can be written. -/
def encode? (frame : Frame) (order : ByteOrder) (fresh : MaskKey) : Option Bytes :=
  frame.encodeInto? order fresh []

end WebSocket.Frame
