import WebSocket.Digest.Sha1
import WebSocket.Error
import WebSocket.Http.Response
import WebSocket.Text.Base64
import WebSocket.Url

/-! # The upgrade exchange

A connection begins as an HTTP exchange: the client asks to upgrade and shows a random key, the
server agrees and shows that it read the key. `UpgradeRequest.compose` builds the request and
`UpgradeRequest.verify` judges the answer.
-/

namespace WebSocket

/-- What is appended to a key before it is digested. -/
def acceptSalt : String := "258EAFA5-E914-47DA-95CA-C5AB0DC85B11"

/-- The proof that a server read the key. -/
def acceptKey (key : String) : String :=
  Text.Base64.encode (Digest.Sha1.digest (Bytes.ofString (key ++ acceptSalt)))

/-! ## The request -/

/-- A request to upgrade: what is asked for, the header lines, and what the answer is checked
against. -/
structure UpgradeRequest where
  target : String
  fields : List (Bytes × Bytes)
  key : String
  subprotocols : List String
deriving DecidableEq, Repr

namespace UpgradeRequest

/-- The request for a URL. The key is made from random bytes; a port is named only when the URL
names one. -/
def compose (url : Url) (origin : Option String) (headers : Http.Headers)
    (subprotocols : List String) (nonce : Bytes) : Except SetupError UpgradeRequest :=
  match url.host with
  | none => .error .missingHost
  | some host =>
    let field := fun (name value : String) => (Bytes.ofString name, Bytes.ofString value)
    let port := (url.port.map fun port => ":" ++ toString port).getD ""
    let key := Text.Base64.encode nonce
    .ok {
      target := url.requestTarget
      fields :=
        [field "Host" (host ++ port), field "Upgrade" "websocket", field "Connection" "Upgrade"]
          ++ headers.toList.map (fun (name, value) => (name.bytes, value.bytes))
          ++ (origin.map (field "Origin")).toList
          ++ [field "Sec-WebSocket-Key" key]
          ++ (if subprotocols.isEmpty then []
              else [field "Sec-WebSocket-Protocol" (String.intercalate ", " subprotocols)])
          ++ [field "Sec-WebSocket-Version" "13"]
      key
      subprotocols }

/-- A header line as it travels. -/
def line (field : Bytes × Bytes) : Bytes :=
  field.1 ++ [0x3A, 0x20] ++ field.2 ++ Http.crlf

/-- The request as it travels. -/
def bytes (request : UpgradeRequest) : Bytes :=
  Bytes.ofString ("GET " ++ request.target ++ " HTTP/1.1") ++ Http.crlf ++
    request.fields.flatMap line ++ Http.crlf

/-- The proof that the server owes. -/
def expectedAccept (request : UpgradeRequest) : String :=
  acceptKey request.key

/-! ## The answer -/

/-- The items between commas, without blanks around them. -/
def items (value : String) : List (List Char) :=
  (value.toList.splitOn ',').map Text.trim

/-- Whether the headers of a name list a token in any mixture of capitals and small letters. -/
def lists (headers : Http.Headers) (name token : String) : Bool :=
  match headers.joinedByText? name with
  | some value => (items value).any fun item => item.map Char.toLower = token.toList
  | none => false

/-- Chooses among the offered subprotocols the first one that was asked for. A blank offer spoils
all others. -/
def negotiate (requested : List String) (headers : Http.Headers) : Except UpgradeError String :=
  match headers.joinedByText? "sec-websocket-protocol" with
  | none => .error .subprotocol
  | some value =>
    let offered := (items value).map String.ofList
    if offered.any String.isEmpty then .error .subprotocol
    else match offered.find? requested.contains with
      | some name => .ok name
      | none => .error .subprotocol

/-- Judges the answer and gives the subprotocol that was agreed on. Of several faults the first one
in this order counts: status, `Upgrade`, `Connection`, `Sec-WebSocket-Accept`, subprotocol. -/
def verify (request : UpgradeRequest) (head : Http.ResponseHead) :
    Except UpgradeError (Option String) :=
  let accept := (head.headers.joinedByText? "sec-websocket-accept").map fun value =>
    String.ofList (Text.trim value.toList)
  if head.status ≠ 101 then .error (.status head.status)
  else if !lists head.headers "upgrade" "websocket" then .error .upgradeHeader
  else if !lists head.headers "connection" "upgrade" then .error .connectionHeader
  else if accept ≠ some request.expectedAccept then .error .acceptHeader
  else if request.subprotocols.isEmpty then .ok none
  else (negotiate request.subprotocols head.headers).map some

end UpgradeRequest

end WebSocket
