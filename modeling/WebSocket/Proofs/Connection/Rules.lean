import WebSocket.Connection.Step

/-! # The rules of a connection

The steps of a connection as a relation, with one rule for each thing that it can do and the items
that this puts on the event stream as a label (`Advances`). The rules cover every step
(`advances_of_step?`), so that whatever is to be shown of all runs is shown of these rules.
-/

namespace WebSocket

/-! ## Items of the event stream -/

namespace StreamItem

/-- An item without a frame. -/
abbrev status (status : ConnectionStatus) : StreamItem := .event { status }

abbrev entered (state : ConnectionState) : StreamItem := .status (.entered state)

abbrev framed (status : ConnectionStatus) (frame : Frame) : StreamItem :=
  .event { status, frame := some frame }

end StreamItem

namespace Connection

open StreamItem (entered framed)

/-- The status that a failed upgrade has of its own, if it has one. -/
def upgradeReport : Error → List StreamItem
  | .upgrade .timedOut => [.status .upgradeTimedOut]
  | .upgrade _ => [.status .upgradeFailed]
  | _ => []

/-! ## The rules -/

/-- Why an upgrade fails. -/
inductive UpgradeFails (connection : Connection) : Error → Prop where
  | cancelledRequest {deadline : Nat} (requesting : connection.phase = .requesting deadline)
      (cancelled : connection.cancelled = true) :
      UpgradeFails connection (.transport .cancelled)
  | uncomposed {deadline : Nat} (requesting : connection.phase = .requesting deadline)
      (going : connection.cancelled = false) {cause : SetupError}
      (composed : UpgradeRequest.compose connection.url connection.options.origin
        connection.options.headers connection.options.subprotocols connection.nonce =
          .error cause) :
      UpgradeFails connection (.setup cause)
  | unsent {deadline : Nat} (requesting : connection.phase = .requesting deadline)
      (going : connection.cancelled = false) {detail : String}
      (broken : connection.stream.writes = .broken detail) :
      UpgradeFails connection (.upgrade (.notSent detail))
  | unsentInTime {deadline : Nat} (requesting : connection.phase = .requesting deadline)
      (going : connection.cancelled = false) (stalled : connection.stream.writes = .stalled)
      (late : deadline ≤ connection.now) :
      UpgradeFails connection (.upgrade .timedOut)
  | cancelledHead {request : UpgradeRequest} {deadline : Nat} {reader : Http.HeadReader}
      (waiting : connection.phase = .awaitingHead request deadline reader)
      (cancelled : connection.cancelled = true) :
      UpgradeFails connection (.transport .cancelled)
  | closed {request : UpgradeRequest} {deadline : Nat} {reader : Http.HeadReader}
      (waiting : connection.phase = .awaitingHead request deadline reader)
      (going : connection.cancelled = false) (empty : connection.stream.inbox = [])
      (ending : connection.stream.ending = some .closed) :
      UpgradeFails connection
        (.upgrade (.failed "connection closed before the end of the response headers"))
  | unreadable {request : UpgradeRequest} {deadline : Nat} {reader : Http.HeadReader}
      (waiting : connection.phase = .awaitingHead request deadline reader)
      (going : connection.cancelled = false) (empty : connection.stream.inbox = [])
      {detail : String} (ending : connection.stream.ending = some (.failed detail)) :
      UpgradeFails connection (.upgrade (.failed detail))
  | unansweredInTime {request : UpgradeRequest} {deadline : Nat} {reader : Http.HeadReader}
      (waiting : connection.phase = .awaitingHead request deadline reader)
      (going : connection.cancelled = false) (empty : connection.stream.inbox = [])
      (openEnded : connection.stream.ending = none) (late : deadline ≤ connection.now) :
      UpgradeFails connection (.upgrade .timedOut)
  | malformed {request : UpgradeRequest} {deadline : Nat} {reader : Http.HeadReader}
      (waiting : connection.phase = .awaitingHead request deadline reader)
      (going : connection.cancelled = false) (arrived : connection.stream.inbox ≠ [])
      (read : (reader.read connection.stream.inbox).1.isUnreadable = true ∨
        (reader.read connection.stream.inbox).1 = .tooLong) :
      UpgradeFails connection (.upgrade (.failed "malformed HTTP response"))
  | refused {request : UpgradeRequest} {deadline : Nat} {reader : Http.HeadReader}
      (waiting : connection.phase = .awaitingHead request deadline reader)
      (going : connection.cancelled = false) (arrived : connection.stream.inbox ≠ [])
      {head : Http.ResponseHead} {rest : Bytes}
      (read : (reader.read connection.stream.inbox).1 = .complete head rest)
      {cause : UpgradeError} (refused : request.verify head = .error cause) :
      UpgradeFails connection (.upgrade cause)

/-- An upgrade fails while the request is to be written or the response head is being read. -/
theorem UpgradeFails.phase_cases {connection : Connection} {error : Error}
    (fails : connection.UpgradeFails error) :
    (∃ deadline, connection.phase = .requesting deadline) ∨
      ∃ request deadline reader, connection.phase = .awaitingHead request deadline reader := by
  cases fails with
  | cancelledRequest phase | uncomposed phase | unsent phase | unsentInTime phase =>
    exact .inl ⟨_, phase⟩
  | cancelledHead phase | closed phase | unreadable phase | unansweredInTime phase
  | malformed phase | refused phase => exact .inr ⟨_, _, _, phase⟩

/-- The connection turns to what has arrived, having nothing else to do. -/
structure Reads (connection : Connection) : Prop where
  running : connection.phase = .connected
  going : connection.cancelled = false
  noOrder : connection.callers.queue = []
  used : connection.callers.areGone = false
  noPing : ∀ schedule ∈ connection.keepAlive, schedule.isDue connection.now = false

/-- The next frame from the peer, as far as it may be passed on to assembly. -/
structure Takes (connection : Connection) (frame : Frame) : Prop where
  decoded : connection.decodeNext.outcome = .ok (some frame)
  unmasked : frame.isMasked = false

/-- How the peer breaks the protocol, and how far assembly has come by then. -/
inductive Offends (connection : Connection) : Violation → Assembly → Prop where
  | undecodable {cause : Violation} (decoded : connection.decodeNext.outcome = .error cause) :
      Offends connection cause connection.assembly
  | masked {frame : Frame} (decoded : connection.decodeNext.outcome = .ok (some frame))
      (masked : frame.isMasked = true) :
      Offends connection .maskedByServer connection.assembly
  | unassembled {frame : Frame} (takes : connection.Takes frame) {cause : Violation}
      {assembly : Assembly} (pushed : connection.assembly.push frame = (.error cause, assembly)) :
      Offends connection cause assembly
  | badClose {frame message : Frame} (takes : connection.Takes frame) {cause : Violation}
      {assembly : Assembly}
      (pushed : connection.assembly.push frame = (.ok (some message), assembly))
      (close : message.opcode = .close) (invalid : message.closeEcho = .error cause) :
      Offends connection cause assembly
  | badText {frame message : Frame} (takes : connection.Takes frame) {assembly : Assembly}
      (pushed : connection.assembly.push frame = (.ok (some message), assembly))
      (checked : connection.options.checkUtf8 = true) (text : message.opcode = .text)
      (invalid : message.isUtf8 = false) :
      Offends connection .notUtf8 assembly

/-- The connection after its next frame went through assembly. -/
def assembled (connection : Connection) (assembly : Assembly) : Connection :=
  { connection.afterDecoding connection.decodeNext with assembly }

/-- What the end of a write puts on the event stream. -/
def settledItems (job : Job) (succeeded : Bool) : List StreamItem :=
  match job, succeeded with
  | .command _ frames, true => [.status (sentStatus frames)]
  | .keepAlive, true => [.status .pingSent]
  | .pong _, true => [.status .pongSent]
  | .command .., false | .keepAlive, false | .pong _, false => [.status .sendFailed]
  | .close .., true => []
  | .close .., false => [.status .sendFailed, entered .disconnected]
  | .echo _, _ => [entered .disconnected]
  | .refusal cause, _ => [entered .aborted, .failure (.violation cause)]

/-- The error with which a connection ends when its stream does. -/
def lossBy : StreamEnd → TransportError
  | .closed => .aborted
  | .failed detail => .io detail

/-- A connection goes on by itself, or lets its users run when it cannot, and puts items on the
event stream. -/
inductive Advances (connection : Connection) : List StreamItem → Connection → Prop where
  | cancelsDialing {secure : Bool} {deadline : Nat} {outcome : Option (Except TransportError Unit)}
      (dialing : connection.phase = .dialing secure deadline outcome)
      (cancelled : connection.cancelled = true) :
      Advances connection [entered .aborted, .failure (.transport .cancelled)]
        (connection.fail .aborted (.transport .cancelled))
  | dialingFails {secure : Bool} {deadline : Nat} {outcome : Option (Except TransportError Unit)}
      (dialing : connection.phase = .dialing secure deadline outcome)
      (going : connection.cancelled = false) {cause : TransportError}
      (failed : outcome = some (.error cause) ∨
        outcome = none ∧ deadline ≤ connection.now ∧ cause = .connectTimeout) :
      Advances connection [entered .connectionFailed, .failure (.transport cause)]
        (connection.fail .connectionFailed (.transport cause))
  | hostUnfit {deadline : Nat}
      (dialing : connection.phase = .dialing true deadline (some (.ok ())))
      (going : connection.cancelled = false) {cause : SetupError}
      (unfit : serverName (connection.url.host.getD "") = .error cause) :
      Advances connection
        [entered .socketConnected, entered .connectingStream, entered .connectionFailed,
          .failure (.setup cause)]
        (((connection.enter .socketConnected).enter .connectingStream).fail .connectionFailed
          (.setup cause))
  | beginsSecuring {deadline : Nat}
      (dialing : connection.phase = .dialing true deadline (some (.ok ())))
      (going : connection.cancelled = false) {name : String}
      (fit : serverName (connection.url.host.getD "") = .ok name) :
      Advances connection [entered .socketConnected, entered .connectingStream]
        { (connection.enter .socketConnected).enter .connectingStream with phase := .securing none }
  | opensPlain {deadline : Nat}
      (dialing : connection.phase = .dialing false deadline (some (.ok ())))
      (going : connection.cancelled = false) :
      Advances connection
        [entered .socketConnected, entered .connectingStream, entered .streamConnected,
          entered .upgrading]
        (((connection.enter .socketConnected).enter .connectingStream).startUpgrade
          .streamConnected)
  | cancelsSecuring {outcome : Option (Except TransportError Unit)}
      (securing : connection.phase = .securing outcome) (cancelled : connection.cancelled = true) :
      Advances connection [entered .aborted, .failure (.transport .cancelled)]
        (connection.fail .aborted (.transport .cancelled))
  | securingFails {cause : TransportError}
      (securing : connection.phase = .securing (some (.error cause)))
      (going : connection.cancelled = false) :
      Advances connection [entered .connectionFailed, .failure (.transport cause)]
        (connection.fail .connectionFailed (.transport cause))
  | opensSecure (securing : connection.phase = .securing (some (.ok ())))
      (going : connection.cancelled = false) :
      Advances connection [entered .secureStreamConnected, entered .upgrading]
        (connection.startUpgrade .secureStreamConnected)
  | upgradeFails {error : Error} (fails : connection.UpgradeFails error) :
      Advances connection (upgradeReport error ++ [entered .aborted, .failure error])
        (connection.failUpgrade error)
  | requests {deadline : Nat} (requesting : connection.phase = .requesting deadline)
      (going : connection.cancelled = false) {request : UpgradeRequest}
      (composed : UpgradeRequest.compose connection.url connection.options.origin
        connection.options.headers connection.options.subprotocols connection.nonce = .ok request)
      (working : connection.stream.writes = .working) :
      Advances connection []
        { connection with
          written := connection.written.push (.request request)
          phase := .awaitingHead request deadline {} }
  | readsHead {request : UpgradeRequest} {deadline : Nat} {reader : Http.HeadReader}
      (waiting : connection.phase = .awaitingHead request deadline reader)
      (going : connection.cancelled = false) (arrived : connection.stream.inbox ≠ [])
      {scanner : Http.HeadScanner} {after : Http.HeadReader} {unread : Bytes}
      (read : reader.read connection.stream.inbox = (.incomplete scanner, after, unread)) :
      Advances connection []
        { connection.withInbox unread with phase := .awaitingHead request deadline after }
  | upgrades {request : UpgradeRequest} {deadline : Nat} {reader : Http.HeadReader}
      (waiting : connection.phase = .awaitingHead request deadline reader)
      (going : connection.cancelled = false) (arrived : connection.stream.inbox ≠ [])
      {head : Http.ResponseHead} {rest : Bytes} {after : Http.HeadReader} {unread : Bytes}
      (read : reader.read connection.stream.inbox = (.complete head rest, after, unread))
      {subprotocol : Option String} (verified : request.verify head = .ok subprotocol) :
      Advances connection [entered .upgraded, entered .connected]
        (connection.beginExchange subprotocol (rest ++ unread))
  | stops (running : connection.phase = .connected) (cancelled : connection.cancelled = true) :
      Advances connection [entered .aborted, .failure (.transport .cancelled)]
        (connection.shutDown.fail .aborted (.transport .cancelled))
  | takesSend (running : connection.phase = .connected) (going : connection.cancelled = false)
      {id : Nat} {frames : List Frame} {queue : List Command}
      (queued : connection.callers.queue = ⟨id, .send frames⟩ :: queue) :
      Advances connection []
        ({ connection with callers := { connection.callers with queue } }.write
          (.command id frames))
  | takesClose (running : connection.phase = .connected) (going : connection.cancelled = false)
      {id : Nat} {reason : String} {queue : List Command}
      (queued : connection.callers.queue = ⟨id, .close reason⟩ :: queue) :
      Advances connection [entered .disconnecting]
        (({ connection with callers := { connection.callers with queue } }.enter
          .disconnecting).write (.close reason (some id)))
  | abandoned (running : connection.phase = .connected) (going : connection.cancelled = false)
      (noOrder : connection.callers.queue = []) (gone : connection.callers.areGone = true) :
      Advances connection [entered .disconnecting]
        ((connection.enter .disconnecting).write (.close "" none))
  | pings (running : connection.phase = .connected) (going : connection.cancelled = false)
      (noOrder : connection.callers.queue = []) (used : connection.callers.areGone = false)
      {schedule : KeepAlive} (scheduled : connection.keepAlive = some schedule)
      (due : schedule.isDue connection.now = true) :
      Advances connection []
        ({ connection with keepAlive := some (schedule.take connection.now) }.write .keepAlive)
  | refuses (reads : connection.Reads) {cause : Violation} {assembly : Assembly}
      (offends : connection.Offends cause assembly) :
      Advances connection [] ((connection.assembled assembly).write (.refusal cause))
  | collects (reads : connection.Reads) {frame : Frame} (takes : connection.Takes frame)
      {assembly : Assembly} (pushed : connection.assembly.push frame = (.ok none, assembly)) :
      Advances connection [] (connection.assembled assembly)
  | answersPing (reads : connection.Reads) {frame message : Frame}
      (takes : connection.Takes frame) {assembly : Assembly}
      (pushed : connection.assembly.push frame = (.ok (some message), assembly))
      (ping : message.opcode = .ping) :
      Advances connection [framed .pingReceived message]
        (((connection.assembled assembly).reportFrame .pingReceived message).write
          (.pong (message.pongFor connection.options.emptyPong)))
  | hearsPong (reads : connection.Reads) {frame message : Frame} (takes : connection.Takes frame)
      {assembly : Assembly}
      (pushed : connection.assembly.push frame = (.ok (some message), assembly))
      (pong : message.opcode = .pong) :
      Advances connection [framed .pongReceived message]
        ((connection.assembled assembly).reportFrame .pongReceived message)
  | peerCloses (reads : connection.Reads) {frame message : Frame} (takes : connection.Takes frame)
      {assembly : Assembly}
      (pushed : connection.assembly.push frame = (.ok (some message), assembly))
      (close : message.opcode = .close) {echo : Frame} (valid : message.closeEcho = .ok echo) :
      Advances connection [framed .closeReceived message, entered .disconnecting]
        ((((connection.assembled assembly).reportFrame .closeReceived message).enter
          .disconnecting).write (.echo echo))
  | receives (reads : connection.Reads) {frame message : Frame} (takes : connection.Takes frame)
      {assembly : Assembly}
      (pushed : connection.assembly.push frame = (.ok (some message), assembly))
      (data : message.opcode.isControl = false)
      (readable : connection.options.checkUtf8 = true → message.opcode = .text →
        message.isUtf8 = true) :
      Advances connection [framed .dataReceived message]
        ((connection.assembled assembly).reportFrame .dataReceived message)
  | loses (reads : connection.Reads) (waits : connection.decodeNext.outcome = .ok none)
      {ending : StreamEnd} (ended : connection.stream.ending = some ending) :
      Advances connection [entered .aborted, .failure (.transport (lossBy ending))]
        (connection.fail .aborted (.transport (lossBy ending)))
  | keepsPart
      (listening : connection.Reads ∨ ∃ deadline, connection.phase = .awaitingClose deadline)
      (waits : connection.decodeNext.outcome = .ok none)
      (going : connection.stream.ending = none)
      (shorter : connection.decodeNext.rest.length < connection.stream.inbox.length) :
      Advances connection [] (connection.afterDecoding connection.decodeNext)
  | writes {job : Job} (writing : connection.phase = .writing job)
      (working : connection.stream.writes = .working) :
      Advances connection (settledItems job true)
        ((connection.record (connection.framesOf job)).settle job none)
  | failsToWrite {job : Job} (writing : connection.phase = .writing job) {detail : String}
      (broken : connection.stream.writes = .broken detail) :
      Advances connection (settledItems job false) (connection.settle job (some (.io detail)))
  | dropsFrame {deadline : Nat} (waiting : connection.phase = .awaitingClose deadline)
      {frame : Frame} (decoded : connection.decodeNext.outcome = .ok (some frame))
      (other : frame.opcode ≠ .close) :
      Advances connection [] (connection.afterDecoding connection.decodeNext)
  | peerAnswers {deadline : Nat} (waiting : connection.phase = .awaitingClose deadline)
      {frame : Frame} (decoded : connection.decodeNext.outcome = .ok (some frame))
      (close : frame.opcode = .close) :
      Advances connection [framed .closeReceived frame, entered .disconnected]
        ((connection.afterDecoding connection.decodeNext).reportFrame .closeReceived
          frame).finishClosing
  | givesUpPeer {deadline : Nat} (waiting : connection.phase = .awaitingClose deadline)
      {cause : Violation} (decoded : connection.decodeNext.outcome = .error cause) :
      Advances connection [entered .disconnected]
        (connection.afterDecoding connection.decodeNext).finishClosing
  | endsWait {deadline : Nat} (waiting : connection.phase = .awaitingClose deadline)
      (waits : connection.decodeNext.outcome = .ok none)
      (ended : connection.stream.ending.isSome = true ∨ deadline ≤ connection.now) :
      Advances connection [entered .disconnected] connection.finishClosing
  | usersRun (stuck : connection.advance? = none) (able : connection.callers.canRun = true) :
      Advances connection [] { connection with callers := connection.callers.run }

/-! ## The rules cover every step -/

variable {connection next : Connection}

theorem advances_of_stepDialing {secure : Bool} {deadline : Nat}
    {outcome : Option (Except TransportError Unit)}
    (dialing : connection.phase = .dialing secure deadline outcome)
    (step : connection.stepDialing secure deadline outcome = some next) :
    ∃ items, connection.Advances items next := by
  unfold stepDialing at step
  split at step
  · next cancelled =>
    cases step
    exact ⟨_, .cancelsDialing dialing cancelled⟩
  · next going =>
    rw [Bool.not_eq_true] at going
    split at step
    · cases step
      exact ⟨_, .dialingFails dialing going (.inl rfl)⟩
    · dsimp only at step
      split at step
      · next isSecure =>
        subst isSecure
        split at step
        · next unfit =>
          cases step
          exact ⟨_, .hostUnfit dialing going unfit⟩
        · next fit =>
          cases step
          exact ⟨_, .beginsSecuring dialing going fit⟩
      · next plain =>
        cases step
        rw [Bool.not_eq_true] at plain
        subst plain
        exact ⟨_, .opensPlain dialing going⟩
    · split at step
      · next late =>
        cases step
        exact ⟨_, .dialingFails dialing going (.inr ⟨rfl, late, rfl⟩)⟩
      · cases step

theorem advances_of_stepSecuring {outcome : Option (Except TransportError Unit)}
    (securing : connection.phase = .securing outcome)
    (step : connection.stepSecuring outcome = some next) :
    ∃ items, connection.Advances items next := by
  unfold stepSecuring at step
  split at step
  · next cancelled =>
    cases step
    exact ⟨_, .cancelsSecuring securing cancelled⟩
  · next going =>
    rw [Bool.not_eq_true] at going
    obtain ⟨result, rfl, rfl⟩ := Option.map_eq_some_iff.mp step
    cases result with
    | error cause => exact ⟨_, .securingFails securing going⟩
    | ok opened => exact ⟨_, .opensSecure securing going⟩

theorem advances_of_stepRequesting {deadline : Nat}
    (requesting : connection.phase = .requesting deadline)
    (step : connection.stepRequesting deadline = some next) :
    ∃ items, connection.Advances items next := by
  unfold stepRequesting at step
  dsimp only at step
  split at step
  · next cancelled =>
    cases step
    exact ⟨_, .upgradeFails (.cancelledRequest requesting cancelled)⟩
  · next going =>
    rw [Bool.not_eq_true] at going
    split at step
    · next composed =>
      cases step
      exact ⟨_, .upgradeFails (.uncomposed requesting going composed)⟩
    · next composed =>
      split at step
      · next working =>
        cases step
        exact ⟨_, .requests requesting going composed working⟩
      · next broken =>
        cases step
        exact ⟨_, .upgradeFails (.unsent requesting going broken)⟩
      · next stalled =>
        split at step
        · next late =>
          cases step
          exact ⟨_, .upgradeFails (.unsentInTime requesting going stalled late)⟩
        · cases step

theorem advances_of_stepAwaitingHead {request : UpgradeRequest} {deadline : Nat}
    {reader : Http.HeadReader}
    (waiting : connection.phase = .awaitingHead request deadline reader)
    (step : connection.stepAwaitingHead request deadline reader = some next) :
    ∃ items, connection.Advances items next := by
  unfold stepAwaitingHead at step
  split at step
  · next cancelled =>
    cases step
    exact ⟨_, .upgradeFails (.cancelledHead waiting cancelled)⟩
  · next going =>
    rw [Bool.not_eq_true] at going
    split at step
    · next empty =>
      rw [List.isEmpty_iff] at empty
      split at step
      · next ending =>
        cases step
        exact ⟨_, .upgradeFails (.closed waiting going empty ending)⟩
      · next ending =>
        cases step
        exact ⟨_, .upgradeFails (.unreadable waiting going empty ending)⟩
      · next openEnded =>
        split at step
        · next late =>
          cases step
          exact ⟨_, .upgradeFails (.unansweredInTime waiting going empty openEnded late)⟩
        · cases step
    · next arrived =>
      rw [List.isEmpty_iff] at arrived
      split at step
      · next read =>
        cases step
        exact ⟨_, .readsHead waiting going arrived read⟩
      · next read =>
        cases step
        exact ⟨_, .upgradeFails (.malformed waiting going arrived (.inl (by rw [read]; rfl)))⟩
      · next read =>
        cases step
        exact ⟨_, .upgradeFails (.malformed waiting going arrived (.inr (by rw [read])))⟩
      · next read =>
        cases step
        exact ⟨_, .upgradeFails (.malformed waiting going arrived (.inl (by rw [read]; rfl)))⟩
      · next read =>
        split at step
        · next refused =>
          cases step
          exact ⟨_, .upgradeFails (.refused waiting going arrived (by rw [read]) refused)⟩
        · next verified =>
          cases step
          exact ⟨_, .upgrades waiting going arrived read verified⟩

theorem controlAnswer_of_data {frame : Frame} (emptyPong : Bool)
    (data : frame.opcode.isControl = false) : frame.controlAnswer emptyPong = .ok none := by
  unfold Frame.controlAnswer
  cases opcode : frame.opcode <;> simp_all [OpCode.isControl]

theorem advances_deliver (reads : connection.Reads) {frame message : Frame}
    (takes : connection.Takes frame) {assembly : Assembly}
    (pushed : connection.assembly.push frame = (.ok (some message), assembly)) :
    ∃ items, connection.Advances items ((connection.assembled assembly).deliver message) := by
  unfold deliver
  cases control : message.opcode.isControl with
  | false =>
    rw [controlAnswer_of_data _ control]
    dsimp only
    split
    · next bad =>
      simp only [Bool.and_eq_true, decide_eq_true_eq, Bool.not_eq_true'] at bad
      obtain ⟨⟨checked, text⟩, invalid⟩ := bad
      exact ⟨_, .refuses reads (.badText takes pushed checked text invalid)⟩
    · next fine =>
      refine ⟨_, .receives reads takes pushed control fun checked text => ?_⟩
      have checked : (connection.assembled assembly).options.checkUtf8 = true := checked
      simpa [checked, text] using fine
  | true =>
    unfold Frame.controlAnswer
    cases opcode : message.opcode with
    | ping => exact ⟨_, .answersPing reads takes pushed opcode⟩
    | pong => exact ⟨_, .hearsPong reads takes pushed opcode⟩
    | close =>
      cases valid : message.closeEcho with
      | error cause => exact ⟨_, .refuses reads (.badClose takes pushed opcode valid)⟩
      | ok echo => exact ⟨_, .peerCloses reads takes pushed opcode valid⟩
    | continuation | text | binary =>
      rw [opcode] at control
      cases control

theorem advances_receive (reads : connection.Reads) {frame : Frame}
    (decoded : connection.decodeNext.outcome = .ok (some frame)) :
    ∃ items, connection.Advances items
      ((connection.afterDecoding connection.decodeNext).receive frame) := by
  unfold receive
  split
  · next masked => exact ⟨_, .refuses reads (.masked decoded masked)⟩
  · next unmasked =>
    have takes : connection.Takes frame := ⟨decoded, by simpa using unmasked⟩
    split
    · next pushed => exact ⟨_, .refuses reads (.unassembled takes pushed)⟩
    · next pushed => exact ⟨_, .collects reads takes pushed⟩
    · next pushed => exact advances_deliver reads takes pushed

theorem advances_of_keepPart?
    (listening : connection.Reads ∨ ∃ deadline, connection.phase = .awaitingClose deadline)
    (waits : connection.decodeNext.outcome = .ok none)
    (going : connection.stream.ending = none) (step : connection.keepPart? = some next) :
    ∃ items, connection.Advances items next := by
  unfold keepPart? at step
  split at step
  · next shorter =>
    cases step
    exact ⟨_, .keepsPart listening waits going shorter⟩
  · cases step

theorem advances_of_stepReading (reads : connection.Reads)
    (step : connection.stepReading = some next) : ∃ items, connection.Advances items next := by
  unfold stepReading at step
  dsimp only at step
  split at step
  · next decoded =>
    cases step
    exact advances_receive reads decoded
  · next decoded =>
    cases step
    exact ⟨_, .refuses reads (.undecodable decoded)⟩
  · next waits ended =>
    cases step
    exact ⟨_, .loses reads waits ended⟩
  · next waits ended =>
    cases step
    exact ⟨_, .loses reads waits ended⟩
  · next waits going => exact advances_of_keepPart? (.inl reads) waits going step

theorem advances_of_stepConnected (running : connection.phase = .connected)
    (step : connection.stepConnected = some next) : ∃ items, connection.Advances items next := by
  unfold stepConnected at step
  split at step
  · next cancelled =>
    cases step
    exact ⟨_, .stops running cancelled⟩
  · next going =>
    rw [Bool.not_eq_true] at going
    split at step
    · next command queue queued =>
      cases step
      obtain ⟨id, order⟩ := command
      cases order with
      | send frames => exact ⟨_, .takesSend running going queued⟩
      | close reason => exact ⟨_, .takesClose running going queued⟩
    · next noOrder =>
      split at step
      · next gone =>
        cases step
        exact ⟨_, .abandoned running going noOrder gone⟩
      · next used =>
        rw [Bool.not_eq_true] at used
        split at step
        · next schedule scheduled =>
          split at step
          · next due =>
            cases step
            exact ⟨_, .pings running going noOrder used scheduled due⟩
          · next early =>
            rw [Bool.not_eq_true] at early
            refine advances_of_stepReading ⟨running, going, noOrder, used, ?_⟩ step
            simpa [scheduled] using early
        · next unscheduled =>
          exact advances_of_stepReading ⟨running, going, noOrder, used, by simp [unscheduled]⟩ step

theorem advances_of_stepWriting {job : Job} (writing : connection.phase = .writing job)
    (step : connection.stepWriting job = some next) : ∃ items, connection.Advances items next := by
  unfold stepWriting at step
  split at step
  · next working =>
    cases step
    exact ⟨_, .writes writing working⟩
  · next broken =>
    cases step
    exact ⟨_, .failsToWrite writing broken⟩
  · cases step

theorem advances_of_stepAwaitingClose {deadline : Nat}
    (waiting : connection.phase = .awaitingClose deadline)
    (step : connection.stepAwaitingClose deadline = some next) :
    ∃ items, connection.Advances items next := by
  unfold stepAwaitingClose at step
  dsimp only at step
  split at step
  · next decoded =>
    split at step
    · next close =>
      cases step
      exact ⟨_, .peerAnswers waiting decoded close⟩
    · next other =>
      cases step
      exact ⟨_, .dropsFrame waiting decoded other⟩
  · next decoded =>
    cases step
    exact ⟨_, .givesUpPeer waiting decoded⟩
  · next waits =>
    split at step
    · next ended =>
      cases step
      simp only [Bool.or_eq_true, decide_eq_true_eq] at ended
      exact ⟨_, .endsWait waiting waits ended⟩
    · next listening =>
      simp only [Bool.or_eq_true, decide_eq_true_eq, not_or, Bool.not_eq_true,
        Option.isSome_eq_false_iff, Option.isNone_iff_eq_none] at listening
      exact advances_of_keepPart? (.inr ⟨deadline, waiting⟩) waits listening.1 step

theorem advances_of_advance? (step : connection.advance? = some next) :
    ∃ items, connection.Advances items next := by
  unfold advance? at step
  split at step
  · next dialing => exact advances_of_stepDialing dialing step
  · next securing => exact advances_of_stepSecuring securing step
  · next requesting => exact advances_of_stepRequesting requesting step
  · next waiting => exact advances_of_stepAwaitingHead waiting step
  · next running => exact advances_of_stepConnected running step
  · next writing => exact advances_of_stepWriting writing step
  · next waiting => exact advances_of_stepAwaitingClose waiting step
  · cases step

/-- Every step falls under one of the rules. -/
theorem advances_of_step? (step : connection.step? = some next) :
    ∃ items, connection.Advances items next := by
  unfold step? at step
  split at step
  · next advanced =>
    cases step
    exact advances_of_advance? advanced
  · next stuck =>
    split at step
    · next able =>
      cases step
      exact ⟨_, .usersRun stuck able⟩
    · cases step

/-! ## Having nothing to do -/

/-- A connection that cannot write its request has time to try again. -/
theorem waits_of_stuck_requesting {deadline : Nat}
    (requesting : connection.phase = .requesting deadline)
    (stuck : connection.advance? = none) :
    connection.stream.writes = .stalled ∧ connection.now < deadline := by
  rw [advance?, requesting] at stuck
  dsimp only at stuck
  unfold stepRequesting at stuck
  dsimp only at stuck
  split at stuck
  · cases stuck
  · split at stuck
    · cases stuck
    · split at stuck
      · cases stuck
      · cases stuck
      · next stalled =>
        split at stuck
        · cases stuck
        · next early => exact ⟨stalled, Nat.lt_of_not_le early⟩

/-- A connection that cannot go on by itself in the response head has read all that arrived and has
time for more. -/
theorem waits_of_stuck_head {request : UpgradeRequest} {deadline : Nat} {reader : Http.HeadReader}
    (waiting : connection.phase = .awaitingHead request deadline reader)
    (stuck : connection.advance? = none) :
    connection.cancelled = false ∧ connection.stream.inbox = [] ∧
      connection.stream.ending = none ∧ connection.now < deadline := by
  rw [advance?, waiting] at stuck
  dsimp only at stuck
  unfold stepAwaitingHead at stuck
  split at stuck
  · cases stuck
  · next going =>
    rw [Bool.not_eq_true] at going
    split at stuck
    · next empty =>
      rw [List.isEmpty_iff] at empty
      split at stuck
      · cases stuck
      · cases stuck
      · next openEnded =>
        split at stuck
        · cases stuck
        · next early => exact ⟨going, empty, openEnded, Nat.lt_of_not_le early⟩
    · split at stuck
      · cases stuck
      · cases stuck
      · cases stuck
      · cases stuck
      · split at stuck <;> cases stuck

/-- A connection that cannot go on by itself while frames go both ways waits for more of them. -/
theorem waits_of_stuck (running : connection.phase = .connected)
    (stuck : connection.advance? = none) :
    connection.Reads ∧ connection.decodeNext.outcome = .ok none ∧
      connection.stream.ending = none := by
  rw [advance?, running] at stuck
  dsimp only at stuck
  unfold stepConnected at stuck
  split at stuck
  · cases stuck
  · next going =>
    rw [Bool.not_eq_true] at going
    split at stuck
    · cases stuck
    · next noOrder =>
      split at stuck
      · cases stuck
      · next used =>
        rw [Bool.not_eq_true] at used
        have waits (reading : connection.stepReading = none) :
            connection.decodeNext.outcome = .ok none ∧ connection.stream.ending = none := by
          unfold stepReading at reading
          dsimp only at reading
          split at reading
          · cases reading
          · cases reading
          · cases reading
          · cases reading
          · next outcome ending => exact ⟨outcome, ending⟩
        split at stuck
        · next schedule scheduled =>
          split at stuck
          · cases stuck
          · next early =>
            rw [Bool.not_eq_true] at early
            exact ⟨⟨running, going, noOrder, used, by simpa [scheduled] using early⟩, waits stuck⟩
        · next unscheduled =>
          exact ⟨⟨running, going, noOrder, used, by simp [unscheduled]⟩, waits stuck⟩

theorem waits_of_idle (running : connection.phase = .connected) (idle : connection.step? = none) :
    connection.Reads ∧ connection.decodeNext.outcome = .ok none ∧
      connection.stream.ending = none := by
  refine waits_of_stuck running ?_
  unfold step? at idle
  split at idle
  · cases idle
  · next stuck => exact stuck

/-- A connection that cannot go on by itself while it awaits the peer's close has time for it. -/
theorem waits_of_stuck_closing {deadline : Nat}
    (waiting : connection.phase = .awaitingClose deadline) (stuck : connection.advance? = none) :
    connection.decodeNext.outcome = .ok none ∧ connection.stream.ending = none ∧
      connection.now < deadline := by
  rw [advance?, waiting] at stuck
  dsimp only at stuck
  unfold stepAwaitingClose at stuck
  dsimp only at stuck
  split at stuck
  · split at stuck <;> cases stuck
  · cases stuck
  · next waits =>
    split at stuck
    · cases stuck
    · next listening =>
      simp only [Bool.or_eq_true, decide_eq_true_eq, not_or, Bool.not_eq_true,
        Option.isSome_eq_false_iff, Option.isNone_iff_eq_none] at listening
      exact ⟨waits, listening.1, Nat.lt_of_not_le listening.2⟩

end Connection

end WebSocket
