import WebSocket.Bytes

/-! # Byte streams

The stream under a connection, as far as the connection can see it: bytes that have arrived and wait
to be read, how reading ends after them, and what becomes of writes.
-/

namespace WebSocket

/-- How reading ends. -/
inductive StreamEnd where
  | closed
  | failed (detail : String)
deriving DecidableEq, Repr

/-- What becomes of writes. -/
inductive WriteMode where
  | working
  | stalled
  | broken (detail : String)
deriving DecidableEq, Repr

structure ByteStream where
  /-- What has arrived and is not yet read. -/
  inbox : Bytes := []
  /-- How reading ends after the inbox; later bytes are never seen. -/
  ending : Option StreamEnd := none
  writes : WriteMode := .working
  /-- Whether the connection shut the stream down. -/
  isShut : Bool := false
deriving DecidableEq, Repr

namespace ByteStream

def arrive (stream : ByteStream) (bytes : Bytes) : ByteStream :=
  if stream.ending.isSome then stream else { stream with inbox := stream.inbox ++ bytes }

def finish (stream : ByteStream) (ending : StreamEnd) : ByteStream :=
  if stream.ending.isSome then stream else { stream with ending := some ending }

/-- What becomes of writes from now on. A stream whose writes failed stays broken, and a write goes
out as a whole or not at all: no part of a frame is ever left on the way. -/
def setWrites (stream : ByteStream) (mode : WriteMode) : ByteStream :=
  match stream.writes, mode with
  | .broken _, .working | .broken _, .stalled => stream
  | _, mode => { stream with writes := mode }

end ByteStream

end WebSocket
