import WebSocket.Bytes
import WebSocket.Text.Hex

/-! # Percent encoding

A character that a part of a URL cannot hold is written as its UTF-8 bytes, each as a percent sign
and two hexadecimal digits. Each part has its own set of characters to encode; all sets hold the
control characters and everything beyond ASCII.
-/

namespace WebSocket.Url.Percent

open Text

def encodeByte (byte : UInt8) : List Char :=
  ['%', Hex.digit (byte.toNat / 16), Hex.digit (byte.toNat % 16)]

/-- Control characters and everything beyond ASCII. -/
def isControl (c : Char) : Bool :=
  c.toNat < 0x20 || 0x7F ≤ c.toNat

/-- What a path cannot hold. -/
def inPathSet (c : Char) : Bool :=
  isControl c || [' ', '"', '#', '<', '>', '?', '\x60', '\x7B', '\x7D'].contains c

/-- What a query cannot hold. -/
def inQuerySet (c : Char) : Bool :=
  isControl c || [' ', '"', '#', '<', '>'].contains c

/-- What the query of a special scheme cannot hold. -/
def inSpecialQuerySet (c : Char) : Bool :=
  inQuerySet c || c = '\''

/-- Encodes the characters of a set and keeps the others. -/
def encode (set : Char → Bool) (chars : List Char) : List Char :=
  chars.flatMap fun c =>
    if set c then (Bytes.ofString (.singleton c)).flatMap encodeByte else [c]

/-- The bytes of a text in which each well-formed escape stands for one byte. -/
def decode : List Char → Bytes
  | '%' :: high :: low :: rest =>
    match Hex.value? high, Hex.value? low with
    | some high, some low => .ofNat (high * 16 + low) :: decode rest
    | _, _ => 0x25 :: decode (high :: low :: rest)
  | c :: rest => Bytes.ofString (.singleton c) ++ decode rest
  | [] => []

end WebSocket.Url.Percent
