import WebSocket.Proofs.Connection.Lifecycle
import WebSocket.Proofs.Frame.RoundTrip
import WebSocket.Proofs.Traffic

/-! # Which close frames are reported

A close frame of the peer gets onto the event stream in two ways. While frames go both ways it went
through the check of masks, through assembly and through the check of its payload, and what is
reported is a close frame without a mask and with a valid payload. Once the client has begun to
close, the decoder is all that it went through, and the framing rules are all that can be relied on
(`Reaches.closeReceived_lawful`): any close frame that obeys them is reported then, whatever its
payload and its mask (`exists_closeReceived`).
-/

namespace WebSocket

/-- Whether the item reports a close frame of the peer. -/
def StreamItem.reportsClose : StreamItem → Bool
  | .event told => told.status = .closeReceived
  | .failure _ => false

namespace Connection

open StreamItem (entered framed)

variable {connection next : Connection} {items told : List StreamItem}

/-! ## Decoder and assembly -/

/-- What the frames of the peer go through. -/
def intake (connection : Connection) : Decoder × Assembly :=
  (connection.decoder, connection.assembly)

section intake

variable (connection : Connection)

@[simp] theorem intake_emit (item : StreamItem) :
    (connection.emit item).intake = connection.intake := rfl

@[simp] theorem intake_enter (state : ConnectionState) :
    (connection.enter state).intake = connection.intake := rfl

@[simp] theorem intake_fail (state : ConnectionState) (error : Error) :
    (connection.fail state error).intake = connection.intake := rfl

@[simp] theorem intake_finishClosing :
    connection.finishClosing.intake = connection.intake := rfl

@[simp] theorem intake_shutDown : connection.shutDown.intake = connection.intake := rfl

@[simp] theorem intake_record (frames : List Frame) :
    (connection.record frames).intake = connection.intake := rfl

@[simp] theorem intake_write (job : Job) :
    (connection.write job).intake = connection.intake := rfl

@[simp] theorem intake_answer (id : Nat) (error : Option Error) :
    (connection.answer id error).intake = connection.intake := rfl

@[simp] theorem intake_afterDecoding (decoded : Decoded) :
    (connection.afterDecoding decoded).intake = (decoded.decoder, connection.assembly) := rfl

@[simp] theorem intake_assembled (assembly : Assembly) :
    (connection.assembled assembly).intake = (connection.decodeNext.decoder, assembly) := rfl

@[simp] theorem intake_startUpgrade (opened : ConnectionState) :
    (connection.startUpgrade opened).intake = connection.intake := rfl

@[simp] theorem intake_failUpgrade (error : Error) :
    (connection.failUpgrade error).intake = connection.intake := by
  cases error with
  | upgrade cause => cases cause <;> simp [failUpgrade, report]
  | _ => simp [failUpgrade]

@[simp] theorem intake_settle (job : Job) (error : Option TransportError) :
    (connection.settle job error).intake = connection.intake := by
  cases job with
  | close reason id =>
    cases error with
    | none => cases id <;> rfl
    | some cause => cases id <;> simp [settle, report]
  | command | keepAlive | pong => rfl
  | echo | refusal => simp [settle]

end intake

/-- What a step does with the decoder and the assembly. -/
inductive Takings (connection : Connection) : Decoder × Assembly → Prop where
  | nothing : Takings connection connection.intake
  /-- Bytes are taken, but no frame comes to assembly. -/
  | bytes : Takings connection (connection.decodeNext.decoder, connection.assembly)
  | frame (frame : Frame) :
    Takings connection (connection.decodeNext.decoder, (connection.assembly.push frame).2)
  /-- The exchange of frames begins. -/
  | begins :
    Takings connection
      ({ limit := connection.options.payloadLimit }, .empty connection.options.messageLimit)

theorem Takings.of_push {frame : Frame} {outcome : Except Violation (Option Frame)}
    {after : Assembly} (pushed : connection.assembly.push frame = (outcome, after)) :
    connection.Takings (connection.decodeNext.decoder, after) := by
  have taken : connection.Takings
      (connection.decodeNext.decoder, (connection.assembly.push frame).2) := .frame frame
  rwa [pushed] at taken

theorem Advances.takings (advances : connection.Advances items next) :
    connection.Takings next.intake := by
  have quiet (same : next.intake = connection.intake) : connection.Takings next.intake :=
    same ▸ .nothing
  cases advances with
  | collects _ _ pushed => exact .of_push pushed
  | answersPing _ _ pushed | hearsPong _ _ pushed | peerCloses _ _ pushed
  | receives _ _ pushed =>
    have taken := Takings.of_push pushed
    simpa [reportFrame] using taken
  | refuses _ offends =>
    cases offends with
    | undecodable | masked => exact .bytes
    | unassembled _ pushed | badClose _ pushed | badText _ pushed => exact .of_push pushed
  | keepsPart | dropsFrame => exact .bytes
  | peerAnswers | givesUpPeer =>
    have taken : connection.Takings (connection.decodeNext.decoder, connection.assembly) := .bytes
    simpa [reportFrame] using taken
  | upgrades => exact .begins
  | requests | readsHead | beginsSecuring | takesSend | takesClose | pings | usersRun =>
    exact quiet rfl
  | _ => exact quiet (by simp)

/-- Where decoder and assembly can get to, given the limit to payloads that the options set. -/
structure InOrder (limit : Nat) (intake : Decoder × Assembly) : Prop where
  limit_eq : intake.1.limit = limit
  stage : intake.1.stage.IsLegal limit
  sound : intake.2.Sound

theorem inOrder_start (limit messageLimit : Nat) :
    InOrder limit ({ limit }, .empty messageLimit) :=
  ⟨rfl, trivial, Assembly.sound_empty _⟩

/-- Every step keeps decoder and assembly in order. -/
theorem Takings.inOrder {intake : Decoder × Assembly} (takings : connection.Takings intake)
    (order : InOrder connection.options.payloadLimit connection.intake) :
    InOrder connection.options.payloadLimit intake := by
  obtain ⟨limit, stage, sound⟩ := order
  dsimp only [Connection.intake] at limit stage sound
  have called : connection.decodeNext.decoder.limit = connection.options.payloadLimit ∧
      connection.decodeNext.decoder.stage.IsLegal connection.options.payloadLimit := by
    rw [← limit] at stage ⊢
    exact ⟨Decoder.limit_decode .., (Decoder.decode_legal stage _).stage⟩
  cases takings with
  | nothing => exact ⟨limit, stage, sound⟩
  | bytes => exact ⟨called.1, called.2, sound⟩
  | frame frame => exact ⟨called.1, called.2, (Assembly.sound_push sound frame).1⟩
  | begins => exact inOrder_start ..

/-- What is always known of decoder and assembly, and of what was told of states. -/
structure Orderly (connection : Connection) (told : List StreamItem) : Prop where
  fits : connection.Fits
  present : connection.states.back? = some connection.state
  states : statesIn told = connection.states.toList
  intake : InOrder connection.options.payloadLimit connection.intake

theorem Advances.orderly (advances : connection.Advances items next)
    (orderly : connection.Orderly told) : next.Orderly (told ++ items) := by
  have options : next.options = connection.options :=
    congrArg Surroundings.options advances.surroundings_eq
  exact {
    fits := advances.fits orderly.fits
    present := advances.walks.present orderly.present
    states := by rw [statesIn_append, orderly.states, advances.walks.states]
    intake := options ▸ advances.takings.inOrder orderly.intake }

theorem Orderly.apply (orderly : connection.Orderly told) (input : Input) :
    (connection.apply input).Orderly told := by
  have fits := fits_apply orderly.fits input
  obtain ⟨now, cancelled, stream, phase, callers, same⟩ := exists_apply_eq connection input
  rw [same] at fits ⊢
  exact ⟨fits, orderly.present, orderly.states, orderly.intake⟩

theorem Begins.orderly {start : Connection} (begins : Begins start) :
    start.Orderly start.items.toList := by
  refine ⟨begins.fits, begins.lawful.present, begins.statesIn_eq, ?_⟩
  cases begins with
  | attached => exact inOrder_start ..
  | dialed dialed =>
    obtain ⟨secure, rfl⟩ := exists_dialing dialed
    exact inOrder_start ..

section orderly

variable (orderly : connection.Orderly told)

include orderly

/-- Who awaits the peer's close has told that the connection closes. -/
theorem Orderly.disconnecting_mem {deadline : Nat}
    (waiting : connection.phase = .awaitingClose deadline) :
    ConnectionState.disconnecting ∈ statesIn told := by
  have present : connection.state = .disconnecting := by
    have fits := orderly.fits
    rwa [Fits, waiting] at fits
  rw [orderly.states, Array.mem_toList_iff, ← present]
  exact Array.mem_of_back? orderly.present

/-- A frame that the decoder gives obeys the framing rules. -/
theorem Orderly.isLegal {frame : Frame}
    (decoded : connection.decodeNext.outcome = .ok (some frame)) :
    frame.IsLegal connection.options.payloadLimit := by
  obtain ⟨limit, stage, -⟩ := orderly.intake
  rw [← limit] at stage ⊢
  exact (Decoder.decode_legal stage connection.stream.inbox).frame frame decoded

end orderly

/-! ## What is reported of the peer's close -/

theorem any_reportsClose_settledItems (job : Job) (succeeded : Bool) :
    (settledItems job succeeded).any StreamItem.reportsClose = false := by
  cases job with
  | command id frames =>
    cases succeeded with
    | false => rfl
    | true =>
      simp only [settledItems, sentStatus]
      split <;> rfl
  | keepAlive | pong | close | echo | refusal => cases succeeded <;> rfl

theorem any_reportsClose_upgradeReport (error : Error) :
    (upgradeReport error ++ [entered .aborted, .failure error]).any StreamItem.reportsClose =
      false := by
  cases error with
  | upgrade cause => cases cause <;> rfl
  | _ => rfl

/-- A step that reports a close frame of the peer reports it first. Either it awaited that frame, or
it put the frame to all checks and closes now. -/
theorem Advances.reportsClose_cases (advances : connection.Advances items next)
    (reports : items.any StreamItem.reportsClose = true) :
    (∃ deadline frame, connection.phase = .awaitingClose deadline ∧
      connection.decodeNext.outcome = .ok (some frame) ∧ frame.opcode = .close ∧
      items = [framed .closeReceived frame, entered .disconnected]) ∨
    ∃ frame message after, connection.Takes frame ∧
      connection.assembly.push frame = (.ok (some message), after) ∧ message.opcode = .close ∧
      isValidClose message.payload = true ∧
      items = [framed .closeReceived message, entered .disconnecting] := by
  have silent (none : items.any StreamItem.reportsClose = false) : False := by
    rw [reports] at none
    cases none
  cases advances with
  | peerAnswers waiting decoded close => exact .inl ⟨_, _, waiting, decoded, close, rfl⟩
  | peerCloses reads takes pushed close valid =>
    exact .inr ⟨_, _, _, takes, pushed, close, closeEcho_eq_ok_iff.mp ⟨_, valid⟩, rfl⟩
  | upgradeFails => exact (silent (any_reportsClose_upgradeReport _)).elim
  | writes | failsToWrite => exact (silent (any_reportsClose_settledItems ..)).elim
  | _ => exact (silent rfl).elim

/-- Every close frame of the peer that is reported obeys the framing rules, and has no mask and a
valid payload unless the connection had begun to close. -/
def VetsCloses (limit : Nat) (told : List StreamItem) : Prop :=
  ∀ before event, before ++ [.event event] <+: told → event.status = .closeReceived →
    ∃ frame, event.frame = some frame ∧ frame.opcode = .close ∧ frame.IsLegal limit ∧
      (.disconnecting ∉ statesIn before →
        frame.isMasked = false ∧ isValidClose frame.payload = true)

/-- What is reported first after all that was told. -/
theorem prefix_append_cases {front later : List StreamItem} {item : StreamItem}
    (early : front ++ [item] <+: told ++ later) :
    front ++ [item] <+: told ∨ ∃ middle, front = told ++ middle ∧ middle ++ [item] <+: later := by
  rcases List.prefix_or_prefix_of_prefix early (List.prefix_append told later) with within | beyond
  · exact .inl within
  · rcases List.prefix_concat_iff.mp beyond with rfl | ⟨middle, rfl⟩
    · exact .inl List.prefix_rfl
    · rw [List.append_assoc, List.prefix_append_right_inj] at early
      exact .inr ⟨middle, rfl, early⟩

/-- Of a report and the state that is entered with it, the report alone is one. -/
theorem eq_of_prefix_report {before : List StreamItem} {event : Event} {frame : Frame}
    {state : ConnectionState}
    (early : before ++ [.event event] <+: [framed .closeReceived frame, entered state])
    (received : event.status = .closeReceived) :
    before = [] ∧ event.frame = some frame := by
  cases before with
  | nil =>
    simp only [List.nil_append, List.cons_prefix_cons, StreamItem.event.injEq] at early
    exact ⟨rfl, by rw [early.1]⟩
  | cons item before =>
    have later := (List.cons_prefix_cons.mp early).2
    have last : StreamItem.event event ∈ [entered state] :=
      later.subset (List.mem_append_right _ (List.mem_singleton_self _))
    cases List.mem_singleton.mp last
    cases received

theorem Advances.vetsCloses (advances : connection.Advances items next)
    (orderly : connection.Orderly told)
    (vets : VetsCloses connection.options.payloadLimit told) :
    VetsCloses connection.options.payloadLimit (told ++ items) := by
  intro before event early received
  rcases prefix_append_cases early with within | ⟨middle, rfl, recent⟩
  · exact vets before event within received
  · have reports : items.any StreamItem.reportsClose = true := by
      refine List.any_eq_true.mpr ⟨.event event, ?_, decide_eq_true received⟩
      exact recent.subset (List.mem_append_right _ (List.mem_singleton_self _))
    rcases advances.reportsClose_cases reports with
      ⟨deadline, frame, waiting, decoded, close, rfl⟩ |
      ⟨frame, message, after, takes, pushed, close, valid, rfl⟩
    · obtain ⟨rfl, reported⟩ := eq_of_prefix_report recent received
      rw [List.append_nil]
      refine ⟨frame, reported, close, orderly.isLegal decoded, fun running => ?_⟩
      exact absurd (orderly.disconnecting_mem waiting) running
    · obtain ⟨rfl, reported⟩ := eq_of_prefix_report recent received
      -- Assembly passes control frames on as they are.
      obtain rfl : message = frame :=
        orderly.intake.sound.eq_of_control pushed (by rw [close]; rfl)
      exact ⟨message, reported, close, orderly.isLegal takes.decoded,
        fun _ => ⟨takes.unmasked, valid⟩⟩

/-! ## Every run -/

variable {start : Connection} {inputs : List Input}

theorem Begins.any_reportsClose (begins : Begins start) :
    start.items.toList.any StreamItem.reportsClose = false := by
  cases begins with
  | attached => rfl
  | dialed dialed =>
    obtain ⟨secure, rfl⟩ := exists_dialing dialed
    rfl

theorem Begins.vetsCloses (begins : Begins start) (limit : Nat) :
    VetsCloses limit start.items.toList := by
  intro before event early received
  have member : StreamItem.event event ∈ start.items.toList :=
    early.subset (List.mem_append_right _ (List.mem_singleton_self _))
  have silent := List.any_eq_false.mp begins.any_reportsClose _ member
  exact absurd (decide_eq_true received) silent

/-- In every run an event that reports a close frame of the peer carries one that obeys the framing
rules. It has no mask, and its payload is empty or an allowed status code with a readable reason
behind it, unless the connection had begun to close before. -/
theorem Reaches.closeReceived_lawful (begins : Begins start)
    (reaches : Reaches start inputs connection) {before : List StreamItem} {event : Event}
    (early : before ++ [.event event] <+: connection.items.toList)
    (received : event.status = .closeReceived) :
    ∃ frame, event.frame = some frame ∧ frame.opcode = .close ∧
      frame.IsLegal start.options.payloadLimit ∧
      (.disconnecting ∉ statesIn before →
        frame.isMasked = false ∧ isValidClose frame.payload = true) := by
  obtain ⟨told, ⟨-, -, vets⟩, within, -⟩ := reaches.exists_told
    (fun _ connection told => connection.options = start.options ∧ connection.Orderly told ∧
      VetsCloses start.options.payloadLimit told)
    ⟨rfl, begins.orderly, begins.vetsCloses _⟩
    (fun ⟨options, orderly, vets⟩ advances =>
      ⟨(congrArg Surroundings.options advances.surroundings_eq).trans options,
        advances.orderly orderly, options ▸ advances.vetsCloses orderly (options ▸ vets)⟩)
    (fun input _ ⟨options, orderly, vets⟩ =>
      ⟨(options_apply _ input).trans options, orderly.apply input, vets⟩)
  exact vets before event (early.trans within) received

/-- The server closes normally. -/
theorem closeReceived_lawful_of_normal_closure :
    let inputs := [.arrive (agreement ++ [0x88, 0x02, 0x03, 0xE8])]
    let closed := (inputs.foldl apply plainStart).stepUpTo 5
    let before := [entered .initialized, entered .streamConnected, entered .upgrading,
      entered .upgraded, entered .connected]
    let event : Event := .about .closeReceived .close [0x03, 0xE8]
    Begins plainStart ∧ Reaches plainStart inputs closed ∧
      before ++ [.event event] <+: closed.items.toList ∧ event.status = .closeReceived ∧
      .disconnecting ∉ statesIn before ∧
      ∃ frame, event.frame = some frame ∧ frame.opcode = .close ∧
        frame.IsLegal plainStart.options.payloadLimit ∧
        (.disconnecting ∉ statesIn before →
          frame.isMasked = false ∧ isValidClose frame.payload = true) := by
  intro inputs closed before event
  have begins : Begins plainStart := .attached ..
  have reaches : Reaches plainStart inputs closed := (Reaches.start.foldl_apply inputs).stepUpTo 5
  have early : before ++ [.event event] <+: closed.items.toList := by decide +kernel
  exact ⟨begins, reaches, early, rfl, by decide,
    Reaches.closeReceived_lawful begins reaches early rfl⟩

/-! ## The peer's answer -/

/-- Only a connection that awaits the peer's close has but one phase before it. -/
theorem exists_awaitingClose (last : connection.phase.rank = 1) :
    ∃ deadline, connection.phase = .awaitingClose deadline := by
  cases phase : connection.phase with
  | awaitingClose deadline => exact ⟨deadline, rfl⟩
  | writing job =>
    rw [phase, Phase.rank] at last
    split at last <;> cases last
  | _ =>
    rw [phase] at last
    cases last

/-- The close frame that a connection awaits is reported with the mask and the payload that it
has. -/
theorem items_of_awaited_close {deadline limit : Nat} {frame : Frame} {key : Option MaskKey}
    {rest : Bytes} (waiting : connection.phase = .awaitingClose deadline)
    (between : connection.decoder = { limit }) (close : frame.opcode = .close)
    (legal : frame.IsLegal limit) (arrived : connection.stream.inbox = frame.form key ++ rest)
    (held : connection.callers.socketHeld = true) :
    ∃ next, connection.step? = some next ∧ next.items.toList =
      connection.items.toList ++
        [framed .closeReceived { frame with mask := key }, entered .disconnected] := by
  have decoded : connection.decodeNext.outcome = .ok (some { frame with mask := key }) := by
    rw [decodeNext, between, arrived, Frame.decode_form legal key rest]
  have step : connection.step? =
      some ((connection.afterDecoding connection.decodeNext).reportFrame .closeReceived
        { frame with mask := key }).finishClosing := by
    simp only [step?, advance?, waiting, stepAwaitingClose, decoded, close, if_true]
  have advances := Advances.peerAnswers waiting decoded close
  exact ⟨_, step, by rw [advances.tells.items, if_pos held]⟩

/-- Whatever close frame a peer sends, masked or not, there is a run that reports it. -/
theorem exists_closeReceived {frame : Frame} (close : frame.opcode = .close)
    (legal : frame.IsLegal defaultPayloadLimit) (key : Option MaskKey) :
    ∃ inputs connection, Reaches plainStart inputs connection ∧
      framed .closeReceived { frame with mask := key } ∈ connection.items.toList := by
  let upgraded := (plainStart.apply (.arrive agreement)).stepUpTo 2
  let closing := (upgraded.apply (.call (.close ""))).stepUpTo 2
  have agreed : Reaches plainStart [.arrive agreement] upgraded :=
    (Reaches.start.apply _).stepUpTo 2
  have closes : Reaches plainStart [.arrive agreement, .call (.close "")] closing :=
    (agreed.apply _).stepUpTo 2
  obtain ⟨rank, between, stream, held⟩ : closing.phase.rank = 1 ∧
      closing.decoder = { limit := defaultPayloadLimit } ∧ closing.stream = {} ∧
      closing.callers.socketHeld = true := by
    decide +kernel
  obtain ⟨deadline, waiting⟩ : ∃ deadline, closing.phase = .awaitingClose deadline :=
    exists_awaitingClose rank
  have arrived : (closing.apply (.arrive (frame.form key))).stream.inbox =
      frame.form key ++ [] := by
    rw [apply, ByteStream.arrive, stream, List.append_nil]
    rfl
  obtain ⟨next, step, items⟩ := @items_of_awaited_close (closing.apply (.arrive (frame.form key)))
    deadline _ frame key [] waiting between close legal arrived held
  refine ⟨_, next, (closes.apply _).step step, ?_⟩
  rw [items]
  simp

/-- The client closes, and the server answers with half a status code. -/
theorem not_forall_closeReceived_valid :
    ¬ ∀ {start connection : Connection} {inputs : List Input}, Begins start →
      Reaches start inputs connection → ∀ event, .event event ∈ connection.items.toList →
      event.status = .closeReceived →
      ∃ frame, event.frame = some frame ∧ frame.isMasked = false ∧
        isValidClose frame.payload = true := by
  intro all
  let upgraded := (plainStart.apply (.arrive agreement)).stepUpTo 2
  let closing := (upgraded.apply (.call (.close "bye"))).stepUpTo 2
  let closed := (closing.apply (.arrive [0x88, 0x01, 0x07])).stepUpTo 1
  have reaches : Reaches plainStart
      [.arrive agreement, .call (.close "bye"), .arrive [0x88, 0x01, 0x07]] closed :=
    (((((Reaches.start.apply _).stepUpTo 2).apply _).stepUpTo 2).apply _).stepUpTo 1
  have reported : .event (.about .closeReceived .close [0x07]) ∈ closed.items.toList := by
    decide +kernel
  obtain ⟨frame, same, -, valid⟩ := all (.attached ..) reaches _ reported rfl
  cases same
  cases valid

end Connection

end WebSocket
