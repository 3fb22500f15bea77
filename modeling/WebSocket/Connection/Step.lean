import WebSocket.Connection
import WebSocket.Control

/-! # One step of a connection

`Connection.step?` does the next thing that a connection can do without anything new from outside,
or nothing when there is none. While it is connected the order of preference is: stop when told so,
take an order, close when no user is left, send a keep-alive ping that is due, take the next frame.
Only when it has nothing to do do the users run.
-/

namespace WebSocket.Connection

/-! ## Upgrading -/

/-- Goes on with a stream that is open. -/
def startUpgrade (connection : Connection) (opened : ConnectionState) : Connection :=
  { (connection.enter opened).enter .upgrading with
    phase := .requesting (connection.now + connection.options.upgradeTimeout) }

/-- Waits for the socket, at most for the connect timeout. -/
def stepDialing (connection : Connection) (secure : Bool) (deadline : Nat)
    (outcome : Option (Except TransportError Unit)) : Option Connection :=
  if connection.cancelled then some (connection.fail .aborted (.transport .cancelled))
  else match outcome with
    | some (.error cause) => some (connection.fail .connectionFailed (.transport cause))
    | some (.ok ()) =>
      let opened := (connection.enter .socketConnected).enter .connectingStream
      if secure then
        match serverName (connection.url.host.getD "") with
        | .error cause => some (opened.fail .connectionFailed (.setup cause))
        | .ok _ => some { opened with phase := .securing none }
      else some (opened.startUpgrade .streamConnected)
    | none =>
      if deadline ≤ connection.now then
        some (connection.fail .connectionFailed (.transport .connectTimeout))
      else none

/-- Waits for the TLS exchange. -/
def stepSecuring (connection : Connection) (outcome : Option (Except TransportError Unit)) :
    Option Connection :=
  if connection.cancelled then some (connection.fail .aborted (.transport .cancelled))
  else outcome.map fun
    | .error cause => connection.fail .connectionFailed (.transport cause)
    | .ok () => connection.startUpgrade .secureStreamConnected

/-- Writes the request, unless the time for the upgrade runs out first. -/
def stepRequesting (connection : Connection) (deadline : Nat) : Option Connection :=
  let options := connection.options
  if connection.cancelled then some (connection.failUpgrade (.transport .cancelled))
  else match UpgradeRequest.compose connection.url options.origin options.headers
      options.subprotocols connection.nonce with
    | .error cause => some (connection.failUpgrade (.setup cause))
    | .ok request =>
      match connection.stream.writes with
      | .working => some { connection with
          written := connection.written.push (.request request)
          phase := .awaitingHead request deadline {} }
      | .broken detail => some (connection.failUpgrade (.upgrade (.notSent detail)))
      | .stalled =>
        if deadline ≤ connection.now then some (connection.failUpgrade (.upgrade .timedOut))
        else none

/-- Begins to exchange frames. `rest` is what came behind the response head. -/
def beginExchange (connection : Connection) (subprotocol : Option String) (rest : Bytes) :
    Connection :=
  let options := connection.options
  { ({ connection.withInbox rest with subprotocol }.enter .upgraded).enter .connected with
    phase := .connected
    decoder := { limit := options.payloadLimit }
    assembly := .empty options.messageLimit
    keepAlive :=
      if options.keepAlive then KeepAlive.start? options.keepAliveInterval connection.now
      else none }

/-- Reads on in the response head, unless the time for the upgrade runs out first. -/
def stepAwaitingHead (connection : Connection) (request : UpgradeRequest) (deadline : Nat)
    (reader : Http.HeadReader) : Option Connection :=
  if connection.cancelled then some (connection.failUpgrade (.transport .cancelled))
  else if connection.stream.inbox.isEmpty then
    match connection.stream.ending with
    | some .closed =>
      some (connection.failUpgrade
        (.upgrade (.failed "connection closed before the end of the response headers")))
    | some (.failed detail) => some (connection.failUpgrade (.upgrade (.failed detail)))
    | none =>
      if deadline ≤ connection.now then some (connection.failUpgrade (.upgrade .timedOut))
      else none
  else
    match reader.read connection.stream.inbox with
    | (.incomplete _, reader, unread) =>
      some { connection.withInbox unread with phase := .awaitingHead request deadline reader }
    -- A reader takes too few bytes for a head that overflows.
    | (.malformed _, _) | (.tooLong, _) | (.overflow, _) =>
      some (connection.failUpgrade (.upgrade (.failed "malformed HTTP response")))
    | (.complete head rest, _, unread) =>
      match request.verify head with
      | .error cause => some (connection.failUpgrade (.upgrade cause))
      | .ok subprotocol => some (connection.beginExchange subprotocol (rest ++ unread))

/-! ## Exchanging frames -/

/-- Begins to write. -/
def write (connection : Connection) (job : Job) : Connection :=
  { connection with phase := .writing job }

/-- Deals with a frame after assembly. -/
def deliver (connection : Connection) (frame : Frame) : Connection :=
  match frame.controlAnswer connection.options.emptyPong with
  | .error cause => connection.write (.refusal cause)
  | .ok (some (.pong pong)) => (connection.reportFrame .pingReceived frame).write (.pong pong)
  | .ok (some .nothing) => connection.reportFrame .pongReceived frame
  | .ok (some (.close echo)) =>
    ((connection.reportFrame .closeReceived frame).enter .disconnecting).write (.echo echo)
  | .ok none =>
    if connection.options.checkUtf8 && frame.opcode = .text && !frame.isUtf8 then
      connection.write (.refusal .notUtf8)
    else connection.reportFrame .dataReceived frame

/-- Deals with a frame from the peer. -/
def receive (connection : Connection) (frame : Frame) : Connection :=
  if frame.isMasked then connection.write (.refusal .maskedByServer)
  else match connection.assembly.push frame with
    | (.error cause, assembly) => { connection with assembly }.write (.refusal cause)
    | (.ok none, assembly) => { connection with assembly }
    | (.ok (some message), assembly) => { connection with assembly }.deliver message

/-- Decodes on in the inbox, at most to the end of one frame. -/
def decodeNext (connection : Connection) : Decoded :=
  connection.decoder.decode connection.stream.inbox

/-- What becomes of a call of the decoder that gave nothing: the parts of a frame that it took off
the inbox are kept, if there were any. -/
def keepPart? (connection : Connection) : Option Connection :=
  if connection.decodeNext.rest.length < connection.stream.inbox.length then
    some (connection.afterDecoding connection.decodeNext)
  else none

/-- Takes the next frame, or notices that there will be none. -/
def stepReading (connection : Connection) : Option Connection :=
  let taken := connection.afterDecoding connection.decodeNext
  match connection.decodeNext.outcome, connection.stream.ending with
  | .ok (some frame), _ => some (taken.receive frame)
  | .error cause, _ => some (taken.write (.refusal cause))
  | .ok none, some .closed => some (connection.fail .aborted (.transport .aborted))
  | .ok none, some (.failed detail) => some (connection.fail .aborted (.transport (.io detail)))
  | .ok none, none => connection.keepPart?

/-- Takes an order. -/
def obey (connection : Connection) (command : Command) : Connection :=
  match command.order with
  | .send frames => connection.write (.command command.id frames)
  | .close reason => (connection.enter .disconnecting).write (.close reason (some command.id))

/-- Does what comes first while no write is under way. -/
def stepConnected (connection : Connection) : Option Connection :=
  if connection.cancelled then
    some (connection.shutDown.fail .aborted (.transport .cancelled))
  else match connection.callers.queue with
    | command :: queue =>
      some ({ connection with callers := { connection.callers with queue } }.obey command)
    | [] =>
      if connection.callers.areGone then
        some ((connection.enter .disconnecting).write (.close "" none))
      else match connection.keepAlive with
        | some schedule =>
          if schedule.isDue connection.now then
            let keepAlive := some (schedule.take connection.now)
            some ({ connection with keepAlive }.write .keepAlive)
          else connection.stepReading
        | none => connection.stepReading

/-! ## Writing -/

/-- The frames of a write. -/
def framesOf (connection : Connection) : Job → List Frame
  | .command _ frames => frames
  | .keepAlive => [.ping (connection.options.keepAliveMessage.getD [])]
  | .pong frame | .echo frame => [frame]
  | .close reason _ => [.close .away (Bytes.ofString reason)]
  | .refusal cause => [.close cause.closeCode (Bytes.ofString cause.message)]

/-- The status that reports success of a write that a user or the schedule asked for. -/
def sentStatus (frames : List Frame) : ConnectionStatus :=
  if frames.head?.any (·.opcode = .ping) then .pingSent else .sendComplete

/-- What follows a write, given the error with which it failed if it did. -/
def settle (connection : Connection) (job : Job) (error : Option TransportError) : Connection :=
  let answerTo := fun (connection : Connection) id => connection.answer id (error.map .transport)
  match job with
  | .command id frames =>
    let reported := connection.report (if error.isNone then sentStatus frames else .sendFailed)
    { answerTo reported id with phase := .connected }
  | .keepAlive =>
    { connection.report (if error.isNone then .pingSent else .sendFailed) with phase := .connected }
  | .pong _ =>
    { connection.report (if error.isNone then .pongSent else .sendFailed) with phase := .connected }
  | .close _ id =>
    let reported := if error.isNone then connection else connection.report .sendFailed
    let answered := id.elim reported (answerTo reported)
    if error.isNone then
      { answered with phase := .awaitingClose (connection.now + connection.options.closeTimeout) }
    else answered.finishClosing
  | .echo _ => connection.finishClosing
  | .refusal cause => connection.shutDown.fail .aborted (.violation cause)

/-- Carries a write out, unless writes are stalled. -/
def stepWriting (connection : Connection) (job : Job) : Option Connection :=
  match connection.stream.writes with
  | .working => some ((connection.record (connection.framesOf job)).settle job none)
  | .broken detail => some (connection.settle job (some (.io detail)))
  | .stalled => none

/-! ## Closing -/

/-- Drops what still comes until the peer closes, nothing more can come, or the time is up. -/
def stepAwaitingClose (connection : Connection) (deadline : Nat) : Option Connection :=
  let taken := connection.afterDecoding connection.decodeNext
  match connection.decodeNext.outcome with
  | .ok (some frame) =>
    if frame.opcode = .close then some (taken.reportFrame .closeReceived frame).finishClosing
    else some taken
  | .error _ => some taken.finishClosing
  | .ok none =>
    if connection.stream.ending.isSome || deadline ≤ connection.now then
      some connection.finishClosing
    else connection.keepPart?

/-! ## All together -/

/-- What the connection itself can do. -/
def advance? (connection : Connection) : Option Connection :=
  match connection.phase with
  | .dialing secure deadline outcome => connection.stepDialing secure deadline outcome
  | .securing outcome => connection.stepSecuring outcome
  | .requesting deadline => connection.stepRequesting deadline
  | .awaitingHead request deadline reader => connection.stepAwaitingHead request deadline reader
  | .connected => connection.stepConnected
  | .writing job => connection.stepWriting job
  | .awaitingClose deadline => connection.stepAwaitingClose deadline
  | .ended => none

/-- The next thing that happens, if anything can. -/
def step? (connection : Connection) : Option Connection :=
  match connection.advance? with
  | some next => some next
  | none =>
    if connection.callers.canRun then some { connection with callers := connection.callers.run }
    else none

end WebSocket.Connection
