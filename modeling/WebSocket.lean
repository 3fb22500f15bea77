import WebSocket.Connection.Script
import WebSocket.Frame.Drain
import WebSocket.Onlooker
import WebSocket.Proofs.Frame.Pieces
import WebSocket.Proofs.Frame.RoundTrip
import WebSocket.Proofs.Frame.Grammar
import WebSocket.Proofs.Frame.RawReads
import WebSocket.Proofs.Frame.StreamEnd
import WebSocket.Proofs.Frame.Shortest
import WebSocket.Proofs.Connection.Events
import WebSocket.Proofs.Connection.Reception
import WebSocket.Proofs.Connection.Ledger
import WebSocket.Proofs.Connection.Sends
import WebSocket.Proofs.Connection.Outgoing
import WebSocket.Proofs.Connection.Delivery
import WebSocket.Proofs.Connection.Timely
import WebSocket.Proofs.Connection.Upgrading
import WebSocket.Proofs.Connection.Lifecycle
import WebSocket.Proofs.Connection.Pongs
import WebSocket.Proofs.Fates
import WebSocket.Proofs.Connection.Arrivals
import WebSocket.Proofs.Connection.Foresight
import WebSocket.Proofs.Connection.FailStop
import WebSocket.Proofs.Connection.Chunking
import WebSocket.Proofs.Connection.Deadlines
import WebSocket.Proofs.Connection.Pacing
import WebSocket.Proofs.Connection.Rejections
import WebSocket.Proofs.Connection.Unread
import WebSocket.Proofs.Connection.HeadRoom
import WebSocket.Proofs.Connection.Onlooking
import WebSocket.Proofs.Connection.CloseReports
import WebSocket.Proofs.Http.Grammar
import WebSocket.Proofs.Http.HeadLimit
import WebSocket.Proofs.Http.HeadCuts
import WebSocket.Proofs.Http.Lines
import WebSocket.Proofs.Http.Merging
import WebSocket.Proofs.Http.Values
import WebSocket.Proofs.Http.Reading
import WebSocket.Proofs.Http.Writing
import WebSocket.Proofs.Text
import WebSocket.Proofs.Utf8
import WebSocket.Proofs.Request
import WebSocket.Proofs.Subprotocols
import WebSocket.Proofs.Splitting
import WebSocket.Proofs.Base64
import WebSocket.Proofs.Judgement
import WebSocket.Proofs.RequestReading
import WebSocket.Proofs.Fragments
import WebSocket.Proofs.Messages
import WebSocket.Proofs.Connection.Texts
import WebSocket.Proofs.CloseFrames
import WebSocket.Proofs.Overflow
import WebSocket.Proofs.RequestHeaders
