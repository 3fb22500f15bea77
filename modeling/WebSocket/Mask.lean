import WebSocket.Bytes

/-! # Payload masking

A client hides every payload byte under one byte of a four-byte key: byte `i` is combined with key
byte `i mod 4` by exclusive or. `MaskKey.apply` works on whole 32-bit words, whose byte order is a
parameter because the result must not depend on it; `MaskKey.cover` is the rule itself.
-/

namespace WebSocket

/-- A masking key, in the order in which it stands on the wire. -/
structure MaskKey where
  first : UInt8
  second : UInt8
  third : UInt8
  fourth : UInt8
deriving DecidableEq, Repr, Inhabited

namespace MaskKey

/-- The key that changes nothing. -/
def zero : MaskKey := ⟨0, 0, 0, 0⟩

def toBytes (key : MaskKey) : Bytes :=
  [key.first, key.second, key.third, key.fourth]

/-- The key of the first four bytes. -/
def ofBytes? : Bytes → Option MaskKey
  | [first, second, third, fourth] => some ⟨first, second, third, fourth⟩
  | _ => none

/-- The key byte for the payload byte at `index`. -/
def byteAt (key : MaskKey) (index : Nat) : UInt8 :=
  match index % 4 with
  | 0 => key.first
  | 1 => key.second
  | 2 => key.third
  | _ => key.fourth

/-- The masking rule: byte `i` of the payload under byte `i mod 4` of the key. -/
def cover (key : MaskKey) (payload : Bytes) : Bytes :=
  payload.mapIdx fun index byte => byte ^^^ key.byteAt index

end MaskKey

/-- In which order four bytes make a machine word. -/
inductive ByteOrder where
  | littleEndian
  | bigEndian
deriving DecidableEq, Repr

namespace ByteOrder

/-- The word whose bytes lie in memory in the given order. -/
def pack (order : ByteOrder) (b0 b1 b2 b3 : UInt8) : UInt32 :=
  match order with
  | littleEndian =>
    b0.toUInt32 ||| (b1.toUInt32 <<< 8) ||| (b2.toUInt32 <<< 16) ||| (b3.toUInt32 <<< 24)
  | bigEndian =>
    b3.toUInt32 ||| (b2.toUInt32 <<< 8) ||| (b1.toUInt32 <<< 16) ||| (b0.toUInt32 <<< 24)

/-- The four bytes of a word as they lie in memory. -/
def unpack (order : ByteOrder) (word : UInt32) : UInt8 × UInt8 × UInt8 × UInt8 :=
  match order with
  | littleEndian =>
    (word.toUInt8, (word >>> 8).toUInt8, (word >>> 16).toUInt8, (word >>> 24).toUInt8)
  | bigEndian =>
    ((word >>> 24).toUInt8, (word >>> 16).toUInt8, (word >>> 8).toUInt8, word.toUInt8)

end ByteOrder

namespace MaskKey

/-- The key as one machine word. -/
def word (key : MaskKey) (order : ByteOrder) : UInt32 :=
  order.pack key.first key.second key.third key.fourth

/-- Masks four bytes at a time. The bytes left over at the end start at a multiple of four, so they
meet the key from its first byte on. -/
def apply (key : MaskKey) (order : ByteOrder) (payload : Bytes) : Bytes :=
  go payload []
where
  /-- The list `done` holds the masked bytes so far, last one first. -/
  go : Bytes → Bytes → Bytes
    | b0 :: b1 :: b2 :: b3 :: rest, done =>
      let (m0, m1, m2, m3) := order.unpack (order.pack b0 b1 b2 b3 ^^^ key.word order)
      go rest (m3 :: m2 :: m1 :: m0 :: done)
    | tail, done => done.reverseAux (List.zipWith (· ^^^ ·) tail key.toBytes)

/-- Masks a buffer from a position on; the key starts there. -/
def applyFrom (key : MaskKey) (order : ByteOrder) (start : Nat) (buffer : Bytes) : Bytes :=
  buffer.take start ++ key.apply order (buffer.drop start)

end MaskKey

end WebSocket
