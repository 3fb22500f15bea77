import WebSocket.Frame.Drain
import WebSocket.Http.HeadScanner

/-! # What the bytes of a client show

An onlooker who sees nothing but the bytes of a client takes all up to the first empty line for the
request, and what follows it for frames. After the first bytes that are no frame it makes nothing of
the rest.
-/

namespace WebSocket

/-- What an onlooker makes out. -/
inductive Sighting where
  /-- A request, up to its first empty line. -/
  | request (bytes : Bytes)
  | frame (sent : Frame)
  /-- Bytes that are no frame. -/
  | undecodable (cause : Violation)
deriving DecidableEq, Repr

/-- How far an onlooker has read. -/
inductive Onlooker where
  /-- The request has begun with these bytes. -/
  | awaitingRequest (buffer : Bytes)
  | readingFrames (decoder : Decoder) (buffer : Bytes)
  | lost
deriving DecidableEq, Repr

namespace Onlooker

/-- A decoder that refuses no frame for its size. -/
def decoder : Decoder where
  limit := Frame.maxPayload + 1

/-- Reads frames as far as they are there. -/
def readFrames (decoder : Decoder) (buffer : Bytes) : List Sighting × Onlooker :=
  let drained := decoder.drain buffer
  let frames := drained.frames.map Sighting.frame
  match drained.fault with
  | none => (frames, .readingFrames drained.decoder drained.rest)
  | some cause => (frames ++ [.undecodable cause], .lost)

/-- Reads on in the bytes of a client. -/
def read (onlooker : Onlooker) (bytes : Bytes) : List Sighting × Onlooker :=
  match onlooker with
  | awaitingRequest buffer =>
    match Http.headLength? (buffer ++ bytes) with
    | none => ([], .awaitingRequest (buffer ++ bytes))
    | some length =>
      let (request, rest) := (buffer ++ bytes).splitAt length
      let (frames, later) := readFrames decoder rest
      (.request request :: frames, later)
  | readingFrames decoder buffer => readFrames decoder (buffer ++ bytes)
  | lost => ([], .lost)

end Onlooker

end WebSocket
