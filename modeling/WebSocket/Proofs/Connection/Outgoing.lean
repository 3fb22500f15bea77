import WebSocket.Proofs.Connection.Reception
import WebSocket.Proofs.Connection.Sends
import WebSocket.Proofs.Frame.Proper
import WebSocket.Proofs.Options

/-! # What a client writes is legal

Whatever makes a connection write, an order, the schedule of pings, the answer to a ping, a close
frame or a violation, the frames are proper and the write closes the connection exactly when they
are close frames (`WritesProper`). Orders are proper because calls are checked, and all other writes
because of what the options and the decoder let pass. A close frame is the last frame on the wire,
since the write that closes the connection is the last one.
-/

namespace WebSocket

/-! ## Orders -/

/-- A call that is not refused orders proper frames, and a close frame only when it is to close. -/
theorem Call.isProper_frames {call : Call} (fine : call.misuse? = none) {frame : Frame}
    (member : frame ∈ call.order.frames) :
    frame.IsProper ∧ (frame.opcode = .close ↔ call.order.isClose = true) := by
  have data {order : Order} (sends : order.isClose = false) (proper : frame.IsProper)
      (kind : frame.opcode.isControl = false) :
      frame.IsProper ∧ (frame.opcode = .close ↔ order.isClose = true) := by
    refine ⟨proper, fun close => ?_, fun closes => ?_⟩
    · rw [close] at kind
      cases kind
    · rw [sends] at closes
      cases closes
  cases call with
  | text body | binary body =>
    obtain rfl := List.mem_singleton.mp member
    exact data rfl (Frame.isProper_of_data rfl _ _) rfl
  | textFragment body opcode role | binaryFragment body opcode role =>
    obtain rfl := List.mem_singleton.mp member
    have kind : opcode.isControl = false := by simpa [misuse?] using fine
    exact data rfl (Frame.isProper_fragment kind _ _) (Frame.isControl_fragment kind _ _)
  | textParts parts | binaryParts parts =>
    obtain ⟨proper, kind⟩ := Frame.isProper_fragments rfl member
    exact data rfl proper kind
  | ping payload =>
    obtain rfl := List.mem_singleton.mp member
    have short : payload.length ≤ maxControlPayload := by simpa [misuse?] using fine
    exact ⟨Frame.isProper_ping short, by simp [Frame.ping, order, Order.isClose]⟩
  | close reason =>
    obtain rfl := List.mem_singleton.mp member
    have short : (Bytes.ofString reason).length + 2 ≤ maxControlPayload := by
      simpa [misuse?] using fine
    exact ⟨Frame.isProper_close rfl rfl (Bytes.isUtf8_ofString _) short, iff_of_true rfl rfl⟩

/-- A frame that may be written for a job: it closes when the job does, and what no user ordered is
a control frame. -/
structure Frame.Suits (frame : Frame) (job : Job) : Prop where
  proper : frame.IsProper
  closes : frame.opcode = .close ↔ job.isFinal = true
  control : job.order? = none → frame.opcode.isControl = true

namespace Connection

variable {connection next : Connection} {items : List StreamItem} {inputs : List Input}
  {url : Url} {options : Options} {nonce : Bytes} {keys : Nat → MaskKey}

/-! ## Writes -/

/-- All frames of a write suit it. -/
def WritesProper (connection : Connection) (job : Job) : Prop :=
  ∀ frame ∈ connection.framesOf job, frame.Suits job

theorem WritesProper.congr {job : Job} (proper : connection.WritesProper job)
    (same : next.options = connection.options) : next.WritesProper job := by
  intro frame member
  unfold framesOf at member
  rw [same] at member
  exact proper frame member

/-- What is taken from the decoder is legal, and control frames are passed on as they are. -/
theorem Reaches.legal_of_takes (reaches : Reaches (attach url options nonce keys) inputs connection)
    (running : connection.phase = .connected) {frame message : Frame}
    (takes : connection.Takes frame) {after : Assembly}
    (pushed : connection.assembly.push frame = (.ok (some message), after))
    (control : message.opcode.isControl = true) :
    message.payload.length ≤ maxControlPayload := by
  obtain ⟨told, accounts, -⟩ := reaches.accounts
  rw [Accounts, running] at accounts
  have legal := Decoder.decode_legal accounts.decoder connection.stream.inbox
  obtain rfl := accounts.assembly.eq_of_control pushed control
  exact ((legal.frame _ takes.decoded).control control).2

/-- What a connection begins to write on its own accord is proper. -/
theorem Advances.writesProper (advances : connection.Advances items next)
    (reaches : Reaches (attach url options nonce keys) inputs connection)
    (valid : options.validate = .ok ())
    (kept : ∀ job, connection.phase = .writing job → job.order? = none →
      connection.WritesProper job) :
    ∀ job, next.phase = .writing job → job.order? = none → next.WritesProper job := by
  intro job writing ownAccord
  have single {frame : Frame} (frames : next.framesOf job = [frame]) (proper : frame.IsProper)
      (closes : frame.opcode = .close ↔ job.isFinal = true)
      (control : frame.opcode.isControl = true) : next.WritesProper job := by
    intro other member
    rw [frames, List.mem_singleton] at member
    rw [member]
    exact ⟨proper, closes, fun _ => control⟩
  have elsewhere (same : next.phase = connection.phase)
      (quiet : connection.phase = .connected ∨
        ∃ deadline, connection.phase = .awaitingClose deadline) : next.WritesProper job := by
    rw [same] at writing
    rcases quiet with running | ⟨deadline, waiting⟩
    · rw [running] at writing
      cases writing
    · rw [waiting] at writing
      cases writing
  have same : connection.options = options := reaches.options_eq
  cases advances with
  | takesSend | takesClose =>
    cases writing
    cases ownAccord
  | abandoned =>
    cases writing
    exact single rfl (Frame.isProper_close rfl rfl rfl (by decide)) (iff_of_true rfl rfl) rfl
  | pings =>
    cases writing
    have short := (Options.validate_eq_ok_iff.mp valid).keepAliveMessage_short
    rw [← same] at short
    exact single rfl (Frame.isProper_ping short) (by simp [Frame.ping, Job.isFinal]) rfl
  | refuses reads offends =>
    cases writing
    exact single rfl (Violation.isProper_close _) (iff_of_true rfl rfl) rfl
  | answersPing reads takes pushed ping =>
    cases writing
    have short := reaches.legal_of_takes reads.running takes pushed (by rw [ping]; rfl)
    obtain ⟨proper, pong⟩ := Frame.isProper_pongFor connection.options.emptyPong short
    exact single rfl proper (by simp [pong, Job.isFinal]) (by rw [pong]; rfl)
  | peerCloses reads takes pushed close valid =>
    cases writing
    obtain ⟨proper, echoes⟩ := Frame.isProper_closeEcho valid
    exact single rfl proper (iff_of_true echoes rfl) (by rw [echoes]; rfl)
  | usersRun => exact kept job writing ownAccord
  | readsHead | upgrades | requests | opensPlain | opensSecure | beginsSecuring => cases writing
  | collects reads | hearsPong reads | receives reads => exact elsewhere rfl (.inl reads.running)
  | keepsPart listening =>
    rcases listening with reads | waiting
    · exact elsewhere rfl (.inl reads.running)
    · exact elsewhere rfl (.inr waiting)
  | dropsFrame waiting => exact elsewhere rfl (.inr ⟨_, waiting⟩)
  | writes | failsToWrite => exact absurd writing (settle_not_writing _ _ _ job)
  | cancelsDialing | dialingFails | hostUnfit | cancelsSecuring | securingFails | upgradeFails
  | stops | loses | peerAnswers | givesUpPeer | endsWait => simp at writing

theorem Reaches.writesProper (reaches : Reaches (attach url options nonce keys) inputs connection)
    (valid : options.validate = .ok ()) :
    ∀ job, connection.phase = .writing job → job.order? = none → connection.WritesProper job := by
  induction reaches with
  | start => exact fun job writing => nomatch writing
  | step reaches step ih =>
    obtain ⟨items, advances⟩ := advances_of_step? step
    exact advances.writesProper reaches valid ih
  | @apply inputs connection reaches input ih =>
    intro job writing ownAccord
    refine WritesProper.congr ?_ (options_apply ..)
    have learns := learns_apply connection input
    rw [writing] at learns
    generalize before : connection.phase = phase at learns
    cases learns
    exact ih job before ownAccord

variable {calls : List MadeCall} {attempts : List Attempt}

/-- Every write that a run has seen is proper. -/
theorem Records.writesProper
    (records : Records (attach url options nonce keys) inputs calls attempts connection)
    (valid : options.validate = .ok ()) :
    ∀ attempt ∈ attempts, connection.WritesProper attempt.job := by
  obtain ⟨dropped, audit⟩ := records.audit
  have ownAccord : ∀ attempt ∈ attempts, attempt.order? = none →
      connection.WritesProper attempt.job := by
    clear audit
    induction records with
    | start => exact fun _ member => absurd member List.not_mem_nil
    | @step inputs calls attempts connection next records step ih =>
      obtain ⟨items, advances⟩ := advances_of_step? step
      have same : next.options = connection.options :=
        congrArg Surroundings.options advances.surroundings_eq
      intro attempt member own
      refine WritesProper.congr ?_ same
      rcases List.mem_append.mp member with earlier | now
      · exact ih attempt earlier own
      · rcases advances.attempted_cases with none | ⟨job, error, before, writing, one, -⟩
        · rw [none] at now
          cases now
        · rw [one, List.mem_singleton] at now
          subst now
          exact records.reaches.writesProper valid job writing own
    | apply records input ih =>
      exact fun attempt member own => (ih attempt member own).congr (options_apply ..)
  intro attempt member
  cases order : attempt.order? with
  | none => exact ownAccord attempt member order
  | some command =>
    have placed : command ∈ MadeCall.orders calls := by
      rw [audit.orders, List.append_assoc]
      exact List.mem_append_left _ (List.mem_filterMap.mpr ⟨attempt, member, order⟩)
    obtain ⟨made, -, fine, ordered⟩ := MadeCall.of_mem_orders placed
    intro frame sent
    rw [Job.framesOf_of_order order, ordered] at sent
    obtain ⟨proper, closes⟩ := made.call.isProper_frames fine sent
    refine ⟨proper, ?_, fun own => ?_⟩
    · rw [Job.isFinal_of_order order, ordered]
      exact closes
    · rw [show attempt.job.order? = some command from order] at own
      cases own

/-! ## The wire -/

/-- The bytes of the request. -/
def requestBytes (connection : Connection) : Bytes :=
  (connection.written.toList.filter (!·.frame?.isSome)).flatMap Written.bytes

/-- The bytes of the frames. -/
def frameBytes (connection : Connection) : Bytes :=
  (connection.written.toList.filter (·.frame?.isSome)).flatMap Written.bytes

/-- What a step adds to the wire: nothing, the request, or the frames of a write. -/
theorem Advances.written_cases (advances : connection.Advances items next) :
    next.written = connection.written ∨
      (∃ deadline request, connection.phase = .requesting deadline ∧ next.phase.rank = 4 ∧
        UpgradeRequest.compose connection.url connection.options.origin connection.options.headers
          connection.options.subprotocols connection.nonce = .ok request ∧
        next.written = connection.written.push (.request request)) ∨
      ∃ job, connection.phase = .writing job ∧
        next.written = (connection.record (connection.framesOf job)).written := by
  cases advances with
  | requests requesting _ composed =>
    exact .inr (.inl ⟨_, _, requesting, rfl, composed, rfl⟩)
  | writes writing working => exact .inr (.inr ⟨_, writing, written_settle ..⟩)
  | failsToWrite => exact .inl (written_settle ..)
  | readsHead | upgrades | takesSend | pings | collects | keepsPart | dropsFrame | usersRun =>
    exact .inl rfl
  | _ => exact .inl (by simp)

/-- Frames are written behind what was written before. -/
theorem exists_written_record (connection : Connection) (frames : List Frame) :
    ∃ behind, (connection.record frames).written.toList = connection.written.toList ++ behind ∧
      ∀ written ∈ behind, written.frame?.isSome = true := by
  unfold record
  dsimp only
  generalize connection.written = before
  induction frames generalizing before with
  | nil => exact ⟨[], by simp, fun _ member => absurd member List.not_mem_nil⟩
  | cons frame frames ih =>
    let first : Written := .frame (frame.writingKey (connection.keys before.size)) frame
    obtain ⟨behind, same, all⟩ := ih (before.push first)
    refine ⟨first :: behind, ?_, List.forall_mem_cons.mpr ⟨rfl, all⟩⟩
    rw [List.foldl_cons, same, Array.toList_push, List.append_assoc, List.singleton_append]

theorem written_apply (connection : Connection) (input : Input) :
    (connection.apply input).written = connection.written := by
  obtain ⟨_, _, _, _, _, same⟩ := exists_apply_eq connection input
  rw [same]

/-- Until the request is on its way nothing is written, and only the first thing that is written can
be a request. -/
structure RequestFirst (connection : Connection) : Prop where
  nothing : 5 ≤ connection.phase.rank → connection.written = #[]
  frames : connection.written.toList.Pairwise fun _ later => later.frame?.isSome = true

theorem RequestFirst.step (first : connection.RequestFirst)
    (step : connection.step? = some next) : next.RequestFirst := by
  obtain ⟨items, advances⟩ := advances_of_step? step
  have lower := rank_le_of_step step
  rcases advances.written_cases with
    same | ⟨deadline, request, requesting, reading, -, same⟩ | ⟨job, writing, same⟩
  · refine ⟨fun early => ?_, ?_⟩
    · rw [same, first.nothing (early.trans lower)]
    · rw [same]
      exact first.frames
  · refine ⟨fun early => ?_, ?_⟩
    · rw [reading] at early
      omega
    · rw [same, first.nothing (by rw [requesting]; exact Nat.le_refl 5)]
      exact List.pairwise_singleton ..
  · refine ⟨fun early => ?_, ?_⟩
    · rw [writing, Phase.rank] at lower
      split at lower <;> omega
    · obtain ⟨behind, whole, all⟩ := connection.exists_written_record (connection.framesOf job)
      rw [same, whole, List.pairwise_append]
      refine ⟨first.frames, ?_, fun _ _ later member => all later member⟩
      exact List.pairwise_of_forall_mem_list fun _ _ later member => all later member

theorem Reaches.requestFirst
    (reaches : Reaches (attach url options nonce keys) inputs connection) :
    connection.RequestFirst := by
  induction reaches with
  | start =>
    refine ⟨fun _ => written_attach .., ?_⟩
    rw [written_attach]
    exact .nil
  | step reaches step ih => exact ih.step step
  | @apply inputs connection reaches input ih =>
    refine ⟨fun early => ?_, ?_⟩
    · rw [(learns_apply connection input).rank_eq] at early
      rw [written_apply, ih.nothing early]
    · rw [written_apply]
      exact ih.frames

theorem filter_of_frames {later : List Written}
    (frames : ∀ written ∈ later, written.frame?.isSome = true) :
    later.filter (!·.frame?.isSome) = [] := by
  rw [List.filter_eq_nil_iff]
  intro written member
  rw [frames written member]
  exact Bool.false_ne_true

/-- The wire carries the request and then the frames. -/
theorem Reaches.wire_eq (reaches : Reaches (attach url options nonce keys) inputs connection) :
    connection.wire = connection.requestBytes ++ connection.frameBytes := by
  have frames := reaches.requestFirst.frames
  unfold wire requestBytes frameBytes
  generalize connection.written.toList = written at frames
  cases frames with
  | nil => rfl
  | @cons first later all rest =>
    have kept : later.filter (·.frame?.isSome) = later := List.filter_eq_self.mpr all
    rw [List.filter_cons, List.filter_cons, kept, filter_of_frames all]
    cases first.frame?.isSome with
    | false => exact congrArg (· ++ _) (List.append_nil _).symm
    | true => rfl

theorem mem_sentFrames {key : MaskKey} {sent : Frame}
    (written : .frame key sent ∈ connection.written) : sent ∈ connection.sentFrames :=
  List.mem_filterMap.mpr ⟨_, Array.mem_def.mp written, rfl⟩

theorem WritesProper.of_framesOnWire {attempt : Attempt}
    (proper : connection.WritesProper attempt.job) {frame : Frame}
    (sent : frame ∈ connection.framesOnWire attempt) : frame.Suits attempt.job := by
  unfold framesOnWire at sent
  split at sent
  · exact proper frame sent
  · cases sent

theorem Reaches.isProper_sentFrames
    (reaches : Reaches (attach url options nonce keys) inputs connection)
    (valid : options.validate = .ok ()) : ∀ frame ∈ connection.sentFrames, frame.IsProper := by
  obtain ⟨calls, attempts, records⟩ := reaches.exists_records
  obtain ⟨dropped, audit⟩ := records.audit
  intro frame member
  rw [audit.sent, List.mem_flatMap] at member
  obtain ⟨attempt, ended, sent⟩ := member
  exact ((records.writesProper valid attempt ended).of_framesOnWire sent).proper

/-- The write that closes the connection writes one frame. -/
theorem framesOf_of_final (connection : Connection) {job : Job} (final : job.isFinal = true) :
    ∃ frame, connection.framesOf job = [frame] := by
  cases job with
  | close | echo | refusal => exact ⟨_, rfl⟩
  | command | keepAlive | pong => cases final

/-- No frame follows a close frame. -/
theorem Reaches.pairwise_sentFrames
    (reaches : Reaches (attach url options nonce keys) inputs connection)
    (valid : options.validate = .ok ()) :
    connection.sentFrames.Pairwise fun earlier _ => earlier.opcode ≠ .close := by
  obtain ⟨calls, attempts, records⟩ := reaches.exists_records
  obtain ⟨dropped, audit⟩ := records.audit
  have proper := records.writesProper valid
  rw [audit.sent, List.pairwise_flatMap]
  constructor
  · intro attempt member
    cases final : attempt.job.isFinal with
    | false =>
      refine List.pairwise_of_forall_mem_list fun earlier sent _ _ close => ?_
      have closes := ((proper attempt member).of_framesOnWire sent).closes.mp close
      rw [final] at closes
      cases closes
    | true =>
      obtain ⟨frame, one⟩ := framesOf_of_final connection final
      unfold framesOnWire
      split
      · rw [one]
        exact List.pairwise_singleton ..
      · exact .nil
  · refine records.endsWithFinal.last.imp_of_mem ?_
    intro attempt later member _ notFinal earlier sent _ _ close
    have closes := ((proper attempt member).of_framesOnWire sent).closes.mp close
    rw [notFinal] at closes
    cases closes

/-- What a frame under a key looks like to those who read it. -/
structure SentLegally (key : MaskKey) (sent : Frame) : Prop where
  /-- The bytes show a mask and no reserved bit. -/
  header : ∃ first second rest, (Written.frame key sent).bytes = first :: second :: rest ∧
    first &&& 0x70 = 0 ∧ second &&& 0x80 ≠ 0
  /-- A decoder whose limit lies above the payload reads the frame and nothing else. -/
  readable : ∀ limit rest, sent.payload.length < limit → sent.payload.length ≤ Frame.maxPayload →
    ({ limit } : Decoder).decode ((Written.frame key sent).bytes ++ rest) =
      ⟨.ok (some { sent with mask := some key }), { limit }, rest⟩
  control : sent.opcode.isControl = true →
    sent.fin = true ∧ sent.payload.length ≤ maxControlPayload
  /-- A decoder with the usual limit reads every control frame. -/
  readableControl : sent.opcode.isControl = true → ∀ rest,
    ({ limit := defaultPayloadLimit } : Decoder).decode ((Written.frame key sent).bytes ++ rest) =
      ⟨.ok (some { sent with mask := some key }), { limit := defaultPayloadLimit }, rest⟩
  /-- A close frame says why in an allowed way, and a peer answers it. -/
  close : sent.opcode = .close → isValidClose sent.payload = true ∧
    ∀ emptyPong, ∃ echo, sent.controlAnswer emptyPong = .ok (some (.close echo))

theorem sentLegally_of_isProper {sent : Frame} (proper : sent.IsProper) (key : MaskKey) :
    SentLegally key sent := by
  have readable (limit : Nat) (rest : Bytes) (size : sent.payload.length < limit)
      (announceable : sent.payload.length ≤ Frame.maxPayload) :
      ({ limit } : Decoder).decode ((Written.frame key sent).bytes ++ rest) =
        ⟨.ok (some { sent with mask := some key }), { limit }, rest⟩ := by
    rw [Written.bytes, Frame.masked_eq_form]
    exact Frame.decode_form (proper.isLegal size announceable) _ rest
  refine ⟨proper.masked_eq key, readable, proper.control, fun control rest => ?_, fun close => ?_⟩
  · have short := (proper.control control).2
    exact readable _ _ (short.trans_lt (by decide)) (short.trans (by decide))
  · have accepted := proper.close close
    obtain ⟨echo, echoes⟩ := closeEcho_eq_ok_iff.mpr accepted
    refine ⟨accepted, fun emptyPong => ⟨echo, ?_⟩⟩
    rw [Frame.controlAnswer, close, echoes]
    rfl

/-- With valid options every frame on the wire is legal, and a close frame is the last one. -/
theorem Reaches.written_legal (valid : options.validate = .ok ())
    (reaches : Reaches (attach url options nonce keys) inputs connection) :
    (∀ key sent, .frame key sent ∈ connection.written → SentLegally key sent) ∧
      ∀ before close after, connection.sentFrames = before ++ close :: after →
        close.opcode = .close → after = [] ∧ ∀ frame ∈ before, frame.opcode ≠ .close := by
  constructor
  · intro key sent written
    exact sentLegally_of_isProper (reaches.isProper_sentFrames valid _ (mem_sentFrames written)) key
  · intro before close after whole closes
    have ordered := reaches.pairwise_sentFrames valid
    rw [whole, List.pairwise_append, List.pairwise_cons] at ordered
    obtain ⟨-, ⟨none, -⟩, apart⟩ := ordered
    refine ⟨?_, fun frame member => apart frame member close List.mem_cons_self⟩
    rw [List.eq_nil_iff_forall_not_mem]
    exact fun later member => none later member closes

/-- A connection answers a masked ping with a close frame and writes nothing after it. -/
theorem written_legal_of_masked_ping :
    let inputs := [.arrive (agreement ++ [0x89, 0x80, 0x01, 0x02, 0x03, 0x04]), .call (.text "a")]
    let ended := (inputs.foldl apply plainStart).stepUpTo 10
    ({} : Options).validate = .ok () ∧ Reaches plainStart inputs ended ∧
      ended.sentFrames =
        [.close .protocol (Bytes.ofString "Received a masked frame from the server")] ∧
      (∀ key sent, .frame key sent ∈ ended.written → SentLegally key sent) ∧
      ∀ before close after, ended.sentFrames = before ++ close :: after →
        close.opcode = .close → after = [] ∧ ∀ frame ∈ before, frame.opcode ≠ .close := by
  intro inputs ended
  have valid : ({} : Options).validate = .ok () := rfl
  have reaches : Reaches plainStart inputs ended := (Reaches.start.foldl_apply inputs).stepUpTo 10
  have frames : ended.sentFrames =
      [.close .protocol (Bytes.ofString "Received a masked frame from the server")] := by
    decide +kernel
  exact ⟨valid, reaches, frames, Reaches.written_legal valid reaches⟩

end Connection

end WebSocket
