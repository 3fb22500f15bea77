/-! # Close status codes

The first two bytes of a close frame say why it is sent. Every 16-bit number has exactly one
meaning (`ofUInt16` and `toUInt16` are inverse on the side that matters, `toUInt16_ofUInt16`), and
only some meanings may travel in a frame (`isAllowed`).
-/

namespace WebSocket

/-- What a close status code means. -/
inductive CloseCode where
  /-- Code 1000, the purpose of the connection is fulfilled. -/
  | normal
  /-- Code 1001, the endpoint goes away. A client that closes on its own accord sends this one. -/
  | away
  /-- Code 1002, the peer broke the protocol. -/
  | protocol
  /-- Code 1003, data of a kind that the endpoint cannot take. -/
  | unsupported
  /-- Code 1005 stands for a close frame without a code and never travels. -/
  | noStatus
  /-- Code 1006 stands for a connection that ended without a close frame and never travels. -/
  | abnormal
  /-- Code 1007, payload at odds with the type of its message. -/
  | invalidData
  /-- Code 1008, a policy was violated. -/
  | policy
  /-- Code 1009, a message too big to process. -/
  | tooBig
  /-- Code 1010, the server did not negotiate an extension that the client needs. -/
  | missingExtension
  /-- Code 1011, the server met an unexpected condition. -/
  | internalError
  /-- Code 1012, the server restarts. -/
  | restart
  /-- Code 1013, try again later. -/
  | tryAgain
  /-- Code 1015 stands for a failed TLS handshake and never travels. -/
  | tlsFailure
  /-- Codes 1004, 1014 and 1016 to 2999, kept for later versions of the protocol. -/
  | reserved (code : UInt16)
  /-- Codes 3000 to 3999, registered by libraries and frameworks. -/
  | registered (code : UInt16)
  /-- Codes 4000 to 4999, for private use by applications. -/
  | application (code : UInt16)
  /-- Every other number. -/
  | unassigned (code : UInt16)
deriving DecidableEq, Repr

namespace CloseCode

/-- The meaning of a code. -/
def ofUInt16 (code : UInt16) : CloseCode :=
  match code with
  | 1000 => normal
  | 1001 => away
  | 1002 => protocol
  | 1003 => unsupported
  | 1005 => noStatus
  | 1006 => abnormal
  | 1007 => invalidData
  | 1008 => policy
  | 1009 => tooBig
  | 1010 => missingExtension
  | 1011 => internalError
  | 1012 => restart
  | 1013 => tryAgain
  | 1015 => tlsFailure
  | code =>
    if code < 1000 then unassigned code
    else if code < 3000 then reserved code
    else if code < 4000 then registered code
    else if code < 5000 then application code
    else unassigned code

/-- The number that stands in the frame. -/
def toUInt16 : CloseCode → UInt16
  | normal => 1000
  | away => 1001
  | protocol => 1002
  | unsupported => 1003
  | noStatus => 1005
  | abnormal => 1006
  | invalidData => 1007
  | policy => 1008
  | tooBig => 1009
  | missingExtension => 1010
  | internalError => 1011
  | restart => 1012
  | tryAgain => 1013
  | tlsFailure => 1015
  | reserved code | registered code | application code | unassigned code => code

/-- Reading a number and writing it again gives the same number. -/
@[simp] theorem toUInt16_ofUInt16 (code : UInt16) : (ofUInt16 code).toUInt16 = code := by
  unfold ofUInt16
  repeat' split
  all_goals rfl

/-- Whether the code may stand in a close frame that travels. -/
def isAllowed : CloseCode → Bool
  | reserved _ | unassigned _ | noStatus | abnormal | tlsFailure => false
  | _ => true

end CloseCode

end WebSocket
