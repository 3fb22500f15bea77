import WebSocket.Proofs.Connection.Chunking
import WebSocket.Proofs.Connection.Pongs

/-! # The rate of keep-alive pings

However late the pings of the schedule are sent, because writes stall, orders wait or time jumps,
there is at most one for each whole interval since the connection opened, since the next one is due
at least one interval after the one before was (`Paced`). A connection that has nothing left to do
is not behind its schedule, so that a first ping is sent in time (`Reaches.pings_paced`).
-/

namespace WebSocket

/-- No call but one for a ping orders a ping. -/
theorem Call.opcode_ne_ping {call : Call} (fine : call.misuse? = none)
    (other : ∀ data, call ≠ .ping data) {frame : Frame} (member : frame ∈ call.order.frames) :
    frame.opcode ≠ .ping := by
  have data (kind : frame.opcode.isControl = false) : frame.opcode ≠ .ping := by
    intro ping
    rw [ping] at kind
    cases kind
  cases call with
  | ping payload => exact absurd rfl (other payload)
  | text | binary | close =>
    obtain rfl := List.mem_singleton.mp member
    simp [Frame.text, Frame.binary, Frame.close, Frame.closeRaw]
  | textFragment body opcode role | binaryFragment body opcode role =>
    obtain rfl := List.mem_singleton.mp member
    have kind : opcode.isControl = false := by simpa [misuse?] using fine
    exact data (Frame.isControl_fragment kind _ _)
  | textParts parts | binaryParts parts => exact data (Frame.isProper_fragments rfl member).2

/-- After a ping the next one is due at least one interval after this one was. -/
theorem KeepAlive.due_add_interval_le (schedule : KeepAlive) (now : Nat) :
    schedule.due + schedule.interval ≤ (schedule.take now).due := by
  simp only [take]
  split <;> omega

namespace Connection

variable {connection next : Connection} {items : List StreamItem} {inputs : List Input}

/-- The pings on the wire. -/
def pings (connection : Connection) : List Frame :=
  connection.sentFrames.filter (·.opcode = .ping)

/-- Whether a ping of the schedule is being written. -/
def isPinging (connection : Connection) : Bool :=
  match connection.phase with
  | .writing .keepAlive => true
  | _ => false

/-- The ping of the schedule. -/
def scheduledPing (options : Options) : Frame :=
  .ping (options.keepAliveMessage.getD [])

/-! ## No other pings -/

/-- Neither an order nor what is being written is a ping, except for the pings of the schedule. -/
structure Unasked (connection : Connection) : Prop where
  job : ∀ job, connection.phase = .writing job → job ≠ .keepAlive →
    ∀ frame ∈ connection.framesOf job, frame.opcode ≠ .ping
  orders : ∀ command ∈ connection.outstanding, ∀ frame ∈ command.order.frames,
    frame.opcode ≠ .ping

/-- Whatever is written next is no ping, except for the pings of the schedule. -/
theorem Advances.unasked (advances : connection.Advances items next)
    (unasked : connection.Unasked) : next.Unasked := by
  have options : next.options = connection.options :=
    congrArg Surroundings.options advances.surroundings_eq
  constructor
  · intro job writing unscheduled
    rw [show next.framesOf job = connection.framesOf job by unfold framesOf; rw [options]]
    have single {frame : Frame} (one : connection.framesOf job = [frame])
        (other : frame.opcode ≠ .ping) :
        ∀ frame ∈ connection.framesOf job, frame.opcode ≠ .ping := by
      rw [one]
      exact List.forall_mem_singleton.mpr other
    cases advances with
    | cancelsDialing | dialingFails | hostUnfit | beginsSecuring | opensPlain | cancelsSecuring
    | securingFails | opensSecure | upgradeFails | requests | readsHead | upgrades | stops | loses
    | peerAnswers | givesUpPeer | endsWait => simp [startUpgrade, beginExchange] at writing
    | collects reads | hearsPong reads | receives reads => simp [reads.running] at writing
    | dropsFrame waiting => simp [waiting] at writing
    | keepsPart listening =>
      rcases listening with reads | ⟨deadline, waiting⟩
      · simp [reads.running] at writing
      · simp [waiting] at writing
    | @takesSend running going id frames queue queued =>
      cases writing
      refine unasked.orders ⟨id, .send frames⟩ ?_
      simp [outstanding, queued]
    | takesClose | abandoned | refuses =>
      cases writing
      exact single rfl (by simp [Frame.close, Frame.closeRaw])
    | pings =>
      cases writing
      exact absurd rfl unscheduled
    | answersPing =>
      cases writing
      refine single rfl ?_
      rw [(Frame.answers_pongFor ..).opcode]
      decide
    | peerCloses reads takes pushed close valid =>
      cases writing
      refine single rfl ?_
      rw [(Frame.isProper_closeEcho valid).2]
      decide
    | writes | failsToWrite => exact absurd writing (settle_not_writing _ _ _ job)
    | usersRun => exact unasked.job job writing unscheduled
  · obtain ⟨dropped, balances⟩ := advances.balances
    intro command member
    refine unasked.orders command ?_
    rw [balances.outstanding]
    exact List.mem_append_left _ (List.mem_append_right _ member)

/-- Whether an input asks for a ping. -/
def Input.asksPing : Input → Bool
  | .call (.ping _) => true
  | _ => false

theorem Unasked.apply (unasked : connection.Unasked) {input : Input}
    (other : input.asksPing = false) : (connection.apply input).Unasked := by
  have adds := adds_apply connection input
  refine ⟨fun job writing scheduled => ?_, fun command member => ?_⟩
  · have learns := learns_apply connection input
    rw [writing] at learns
    generalize before : connection.phase = phase at learns
    cases learns
    have same : (connection.apply input).framesOf job = connection.framesOf job := by
      unfold framesOf
      rw [options_apply]
    rw [same]
    exact unasked.job job before scheduled
  · rw [adds.outstanding, List.mem_append, Option.mem_toList, Option.bind_eq_some_iff] at member
    rcases member with earlier | ⟨made, makes, placed⟩
    · exact unasked.orders command earlier
    · obtain ⟨fine, -, -, rfl⟩ := MadeCall.order?_eq_some_iff.mp placed
      refine fun frame sent => made.call.opcode_ne_ping fine (fun data ping => ?_) sent
      cases input with
      | call call =>
        cases makes
        subst ping
        cases other
      | _ => cases makes

/-! ## The schedule -/

/-- How a step deals with the schedule of pings. -/
inductive Paces (connection next : Connection) : Prop where
  | opens (upgrading : 4 ≤ connection.phase.rank) (running : next.phase = .connected)
      (starts : next.keepAlive =
        if connection.options.keepAlive then
          KeepAlive.start? connection.options.keepAliveInterval connection.now
        else none)
  | begins (running : connection.phase = .connected) {schedule : KeepAlive}
      (scheduled : connection.keepAlive = some schedule) (due : schedule.due ≤ connection.now)
      (writing : next.phase = .writing .keepAlive)
      (taken : next.keepAlive = some (schedule.take connection.now))
  | sends (writing : connection.phase = .writing .keepAlive) (running : next.phase = .connected)
      (same : next.keepAlive = connection.keepAlive)
      (sent : connection.attempted = [⟨.keepAlive, none⟩])
  | fails (writing : connection.phase = .writing .keepAlive) (running : next.phase = .connected)
      (same : next.keepAlive = connection.keepAlive) {cause : TransportError}
      (failed : connection.attempted = [⟨.keepAlive, some cause⟩])
      (broken : ∃ detail, connection.stream.writes = .broken detail)
  | rests (pinging : next.isPinging = connection.isPinging)
      (same : next.keepAlive = connection.keepAlive)
      (others : ∀ attempt ∈ connection.attempted, attempt.job ≠ .keepAlive)

section schedule

variable (connection : Connection)

@[simp] theorem keepAlive_withInbox (inbox : Bytes) :
    (connection.withInbox inbox).keepAlive = connection.keepAlive := rfl

@[simp] theorem keepAlive_enter (state : ConnectionState) :
    (connection.enter state).keepAlive = connection.keepAlive := rfl

@[simp] theorem keepAlive_reportFrame (status : ConnectionStatus) (frame : Frame) :
    (connection.reportFrame status frame).keepAlive = connection.keepAlive := rfl

@[simp] theorem keepAlive_answer (id : Nat) (error : Option Error) :
    (connection.answer id error).keepAlive = connection.keepAlive := rfl

@[simp] theorem keepAlive_write (job : Job) :
    (connection.write job).keepAlive = connection.keepAlive := rfl

@[simp] theorem keepAlive_record (frames : List Frame) :
    (connection.record frames).keepAlive = connection.keepAlive := rfl

@[simp] theorem keepAlive_afterDecoding (decoded : Decoded) :
    (connection.afterDecoding decoded).keepAlive = connection.keepAlive := rfl

@[simp] theorem keepAlive_assembled (assembly : Assembly) :
    (connection.assembled assembly).keepAlive = connection.keepAlive := rfl

@[simp] theorem keepAlive_shutDown : connection.shutDown.keepAlive = connection.keepAlive := rfl

@[simp] theorem keepAlive_startUpgrade (opened : ConnectionState) :
    (connection.startUpgrade opened).keepAlive = connection.keepAlive := rfl

@[simp] theorem keepAlive_fail (state : ConnectionState) (error : Error) :
    (connection.fail state error).keepAlive = connection.keepAlive := rfl

@[simp] theorem keepAlive_finishClosing :
    connection.finishClosing.keepAlive = connection.keepAlive := rfl

@[simp] theorem keepAlive_failUpgrade (error : Error) :
    (connection.failUpgrade error).keepAlive = connection.keepAlive := by
  cases error with
  | upgrade cause => cases cause <;> simp [failUpgrade, report]
  | _ => simp [failUpgrade]

theorem keepAlive_beginExchange (subprotocol : Option String) (rest : Bytes) :
    (connection.beginExchange subprotocol rest).keepAlive =
      if connection.options.keepAlive then
        KeepAlive.start? connection.options.keepAliveInterval connection.now
      else none := rfl

@[simp] theorem keepAlive_settle (job : Job) (error : Option TransportError) :
    (connection.settle job error).keepAlive = connection.keepAlive := by
  cases job with
  | close reason id => cases id <;> cases error <;> simp [settle, report]
  | command | keepAlive | pong | echo | refusal => simp [settle, report]

end schedule

theorem isPinging_settle (connection : Connection) (job : Job) (error : Option TransportError) :
    (connection.settle job error).isPinging = false := by
  unfold isPinging
  split
  · next writing => exact absurd writing (settle_not_writing _ _ _ _)
  · rfl

/-- Every rule deals with the schedule in one of these ways. -/
theorem Advances.paces (advances : connection.Advances items next) : Paces connection next := by
  have rests (quiet : ∀ job, connection.phase ≠ .writing job) (pinging : next.isPinging = false)
      (same : next.keepAlive = connection.keepAlive) : Paces connection next := by
    refine .rests (pinging.trans ?_) same ?_
    · unfold isPinging
      split
      · next writing => exact absurd writing (quiet _)
      · rfl
    · rw [attempted_of_not_writing quiet]
      exact fun _ member => absurd member List.not_mem_nil
  cases advances with
  | cancelsDialing phase | dialingFails phase | hostUnfit phase | beginsSecuring phase
  | opensPlain phase | cancelsSecuring phase | securingFails phase | opensSecure phase
  | requests phase | readsHead phase | stops phase | takesSend phase | takesClose phase
  | abandoned phase | peerAnswers phase | givesUpPeer phase | endsWait phase =>
    exact rests (by simp [phase]) rfl (by simp)
  | upgradeFails fails =>
    exact rests fails.not_writing (by simp [isPinging]) (by simp)
  | upgrades waiting =>
    refine .opens (by rw [waiting]; exact Nat.le_refl 4) rfl ?_
    exact keepAlive_beginExchange ..
  | pings running _ _ _ scheduled due =>
    exact .begins running scheduled (of_decide_eq_true due) rfl rfl
  | refuses reads | answersPing reads | peerCloses reads | loses reads =>
    exact rests (by simp [reads.running]) rfl (by simp)
  | collects reads | hearsPong reads | receives reads =>
    exact rests (by simp [reads.running]) (by simp [isPinging, reads.running]) (by simp)
  | dropsFrame waiting => exact rests (by simp [waiting]) (by simp [isPinging, waiting]) (by simp)
  | keepsPart listening =>
    rcases listening with reads | ⟨deadline, waiting⟩
    · exact rests (by simp [reads.running]) (by simp [isPinging, reads.running]) (by simp)
    · exact rests (by simp [waiting]) (by simp [isPinging, waiting]) (by simp)
  | @writes job writing working =>
    have one : connection.attempted = [⟨job, none⟩] := by simp [attempted, writing, working]
    cases job with
    | keepAlive => exact .sends writing rfl (by simp) one
    | command | pong | close | echo | refusal =>
      refine .rests ?_ (by simp) (by simp [one])
      rw [isPinging_settle, isPinging, writing]
  | @failsToWrite job writing detail broken =>
    have one : connection.attempted = [⟨job, some (.io detail)⟩] := by
      simp [attempted, writing, broken]
    cases job with
    | keepAlive => exact .fails writing rfl (by simp) one ⟨detail, broken⟩
    | command | pong | close | echo | refusal =>
      refine .rests ?_ (by simp) (by simp [one])
      rw [isPinging_settle, isPinging, writing]
  | usersRun stuck => exact .rests rfl rfl (by simp [attempted_of_stuck stuck])

/-! ## Pings on the wire -/

theorem Advances.pings_eq (advances : connection.Advances items next) :
    next.pings = connection.pings ++
      (connection.attempted.flatMap connection.framesOnWire).filter (·.opcode = .ping) := by
  obtain ⟨dropped, balances⟩ := advances.balances
  rw [Connection.pings, balances.sent, List.filter_append]
  rfl

/-- Only a write of the schedule puts pings on the wire. -/
theorem Advances.pings_of_others (advances : connection.Advances items next)
    (unasked : connection.Unasked)
    (others : ∀ attempt ∈ connection.attempted, attempt.job ≠ .keepAlive) :
    next.pings = connection.pings := by
  have none : (connection.attempted.flatMap connection.framesOnWire).filter
      (·.opcode = .ping) = [] := by
    rw [List.filter_eq_nil_iff]
    intro frame member
    obtain ⟨attempt, ended, sent⟩ := List.mem_flatMap.mp member
    rcases advances.attempted_cases with nothing | ⟨job, error, -, writing, one, -⟩
    · rw [nothing] at ended
      cases ended
    · rw [one, List.mem_singleton] at ended
      subst ended
      unfold framesOnWire at sent
      split at sent
      · have other := unasked.job job writing (others _ (by rw [one]; exact List.mem_cons_self))
        simpa using other frame sent
      · cases sent
  rw [advances.pings_eq, none, List.append_nil]

theorem not_writing_of_rank {job : Job} (upgrading : 4 ≤ connection.phase.rank) :
    connection.phase ≠ .writing job := by
  intro writing
  rw [writing, Phase.rank] at upgrading
  split at upgrading <;> omega

/-- The pings that were taken off the schedule, except for those whose writes failed. -/
def taken (connection : Connection) : Nat :=
  connection.pings.length + connection.isPinging.toNat

/-- The schedule of pings since the connection opened. -/
structure Paced (interval opened : Nat) (ping : Frame) (connection : Connection) : Prop where
  pings : ∀ frame ∈ connection.pings, frame = ping
  past : opened + connection.taken * interval ≤ connection.now
  ahead : ∃ schedule, connection.keepAlive = some schedule ∧ schedule.interval = interval ∧
    opened + (connection.taken + 1) * interval ≤ schedule.due ∧
    (schedule.due = opened + interval ∨ 0 < connection.taken ∨
      ∃ detail, connection.stream.writes = .broken detail)

theorem Paced.step {interval opened : Nat}
    (paced : Paced interval opened (scheduledPing connection.options) connection)
    (unasked : connection.Unasked) (exchanging : connection.phase.rank ≤ 3)
    (advances : connection.Advances items next) :
    Paced interval opened (scheduledPing connection.options) next := by
  have now : next.now = connection.now := congrArg Surroundings.now advances.surroundings_eq
  have writes : next.stream.writes = connection.stream.writes :=
    congrArg Surroundings.writes advances.surroundings_eq
  obtain ⟨schedule, scheduled, interval_eq, later, first⟩ := paced.ahead
  cases advances.paces with
  | opens upgrading => omega
  | @begins running other found due writing taken =>
    cases Option.some.inj (scheduled.symm.trans found)
    have pings : next.pings = connection.pings := by
      refine advances.pings_of_others unasked ?_
      rw [attempted_of_not_writing (by simp [running])]
      exact fun _ member => absurd member List.not_mem_nil
    have one : next.taken = connection.taken + 1 := by
      simp only [Connection.taken, pings, isPinging, running, writing, Bool.toNat_false,
        Bool.toNat_true, Nat.add_zero]
    have apart := schedule.due_add_interval_le connection.now
    -- The ping was due, so its share of the time has passed; the next one is an interval away.
    refine ⟨pings ▸ paced.pings, ?_, _, taken, interval_eq, ?_, .inr (.inl (by omega))⟩
    · rw [one, now]
      exact later.trans due
    · rw [one, Nat.add_one_mul (connection.taken + 1), ← Nat.add_assoc]
      rw [interval_eq] at apart
      omega
  | sends writing running same sent =>
    have pings : next.pings = connection.pings ++ [scheduledPing connection.options] := by
      rw [advances.pings_eq, sent]
      rfl
    have still : next.taken = connection.taken := by
      simp only [Connection.taken, pings, isPinging, writing, running, List.length_append,
        List.length_singleton, Bool.toNat_false, Bool.toNat_true, Nat.add_zero]
    refine ⟨?_, ?_, schedule, same.trans scheduled, interval_eq, still ▸ later, ?_⟩
    · rw [pings]
      exact List.forall_mem_append.mpr ⟨paced.pings, List.forall_mem_singleton.mpr rfl⟩
    · rw [still, now]
      exact paced.past
    · rwa [still, writes]
  | @fails writing running same cause failed broken =>
    have pings : next.pings = connection.pings := by
      rw [advances.pings_eq, failed]
      exact List.append_nil _
    have fewer : connection.taken = next.taken + 1 := by
      simp only [Connection.taken, pings, isPinging, writing, running, Bool.toNat_false,
        Bool.toNat_true, Nat.add_zero]
    -- A lost ping leaves the schedule one interval further ahead than it has to be.
    have past := paced.past
    rw [fewer, Nat.add_one_mul] at past
    rw [fewer, Nat.add_one_mul] at later
    refine ⟨pings ▸ paced.pings, by omega, schedule, same.trans scheduled, interval_eq, by omega,
      .inr (.inr (writes ▸ broken))⟩
  | rests pinging same others =>
    have pings := advances.pings_of_others unasked others
    have taken : next.taken = connection.taken := by rw [Connection.taken, pings, pinging]; rfl
    refine ⟨pings ▸ paced.pings, ?_, schedule, same.trans scheduled, interval_eq, ?_, ?_⟩
    · rw [taken, now]
      exact paced.past
    · rwa [taken]
    · rwa [taken, writes]

theorem isPinging_apply (connection : Connection) (input : Input) :
    (connection.apply input).isPinging = connection.isPinging := by
  have learns := learns_apply connection input
  unfold isPinging
  generalize (connection.apply input).phase = after, connection.phase = before at learns
  cases learns <;> rfl

/-- Broken writes stay broken. -/
theorem broken_apply (broken : ∃ detail, connection.stream.writes = .broken detail)
    (input : Input) : ∃ detail, (connection.apply input).stream.writes = .broken detail := by
  obtain ⟨detail, broken⟩ := broken
  cases input with
  | setWrites mode => cases mode <;> simp [apply, ByteStream.setWrites, broken]
  | arrive | finish =>
    refine ⟨detail, ?_⟩
    dsimp only [apply, ByteStream.arrive, ByteStream.finish]
    split <;> exact broken
  | socket | secure =>
    refine ⟨detail, ?_⟩
    dsimp only [apply]
    split <;> exact broken
  | call | takeSender | dropSender | dropSocket | advance | cancel => exact ⟨detail, broken⟩

theorem pings_apply (connection : Connection) (input : Input) :
    (connection.apply input).pings = connection.pings := by
  rw [pings, sentFrames, written_apply]
  rfl

theorem keepAlive_apply (connection : Connection) (input : Input) :
    (connection.apply input).keepAlive = connection.keepAlive := by
  obtain ⟨_, _, _, _, _, same⟩ := exists_apply_eq connection input
  rw [same]

theorem Paced.apply {interval opened : Nat} {ping : Frame}
    (paced : Paced interval opened ping connection) (input : Input) :
    Paced interval opened ping (connection.apply input) := by
  have taken : (connection.apply input).taken = connection.taken := by
    rw [Connection.taken, pings_apply, isPinging_apply]
    rfl
  obtain ⟨schedule, scheduled, interval_eq, later, first⟩ := paced.ahead
  refine ⟨(pings_apply connection input).symm ▸ paced.pings, ?_, schedule,
    (keepAlive_apply ..).trans scheduled, interval_eq, taken ▸ later, ?_⟩
  · rw [taken, now_apply]
    exact Nat.le_add_right_of_le paced.past
  · rw [taken]
    exact first.imp_right (Or.imp_right (broken_apply · input))

/-! ## The beginning -/

theorem isConnected_settle {job : Job} {error : Option TransportError}
    (connected : (connection.settle job error).isConnected = true) :
    connection.isConnected = true := by
  cases job with
  | command | keepAlive | pong => exact connected
  | close reason id =>
    cases error with
    | none => cases id <;> exact connected
    | some cause => cases id <;> cases connected
  | echo | refusal => cases connected

/-- A connection opens with a step. -/
structure Opens (connection next : Connection) : Prop where
  step : connection.step? = some next
  before : connection.isConnected = false
  after : next.isConnected = true

/-- A connection opens when the response head is complete. -/
theorem Opens.beginExchange (opens : connection.Opens next) :
    connection.phase.rank = 4 ∧
      ∃ subprotocol rest, next = connection.beginExchange subprotocol rest := by
  obtain ⟨step, before, after⟩ := opens
  obtain ⟨items, advances⟩ := advances_of_step? step
  cases advances with
  | upgrades waiting => exact ⟨by rw [waiting]; rfl, _, _, rfl⟩
  | @upgradeFails error fails =>
    cases error with
    | upgrade cause => cases cause <;> cases after
    | setup | transport | violation | call => cases after
  | @writes job =>
    have connected : connection.isConnected = true :=
      @isConnected_settle (connection.record (connection.framesOf job)) job none after
    rw [before] at connected
    cases connected
  | failsToWrite =>
    have connected : connection.isConnected = true := isConnected_settle after
    rw [before] at connected
    cases connected
  | requests | readsHead | takesSend | pings | refuses | collects | hearsPong | receives
  | keepsPart | dropsFrame | usersRun | answersPing =>
    exact absurd (after.symm.trans before) (by decide)
  | _ => cases after

variable {url : Url} {options : Options} {nonce : Bytes} {keys : Nat → MaskKey}

/-- No frames are sent before the connection opens. -/
theorem Reaches.sentFrames_of_upgrading
    (reaches : Reaches (attach url options nonce keys) inputs connection)
    (upgrading : 4 ≤ connection.phase.rank) : connection.sentFrames = [] := by
  induction reaches with
  | start => rw [sentFrames, written_attach]; rfl
  | step reaches step ih =>
    obtain ⟨items, advances⟩ := advances_of_step? step
    obtain ⟨dropped, balances⟩ := advances.balances
    have early := upgrading.trans (rank_le_of_step step)
    rw [balances.sent, ih early, attempted_of_not_writing fun _ => not_writing_of_rank early]
    rfl
  | apply reaches input ih =>
    rw [(learns_apply ..).rank_eq] at upgrading
    rw [sentFrames, written_apply]
    exact ih upgrading

theorem unasked_of_upgrading (reaches : Reaches (attach url options nonce keys) inputs connection)
    (upgrading : 4 ≤ connection.phase.rank) : connection.Unasked where
  job _ writing := absurd writing (not_writing_of_rank upgrading)
  orders command member := by
    rw [reaches.outstanding_of_upgrading upgrading] at member
    cases member

/-- The schedule begins when the connection opens. -/
theorem Opens.paced (reaches : Reaches (attach url options nonce keys) inputs connection)
    {opened : Connection} (opens : connection.Opens opened) (on : options.keepAlive = true)
    (positive : 0 < options.keepAliveInterval) :
    Paced options.keepAliveInterval opened.now (scheduledPing options) opened := by
  obtain ⟨rank, subprotocol, rest, rfl⟩ := opens.beginExchange
  have same : connection.options = options := reaches.options_eq
  have none : (connection.beginExchange subprotocol rest).pings = [] := by
    have unsent := reaches.sentFrames_of_upgrading (Nat.le_of_eq rank.symm)
    rw [Connection.pings, show (connection.beginExchange subprotocol rest).sentFrames =
      connection.sentFrames from rfl, unsent]
    rfl
  have taken : (connection.beginExchange subprotocol rest).taken = 0 := by
    rw [Connection.taken, none]
    rfl
  let schedule : KeepAlive :=
    ⟨options.keepAliveInterval, connection.now + options.keepAliveInterval, positive⟩
  refine ⟨?_, ?_, schedule, ?_, rfl, ?_, .inl rfl⟩
  · rw [none]
    exact fun _ member => absurd member List.not_mem_nil
  · rw [taken, Nat.zero_mul]
    exact Nat.le_refl _
  · rw [keepAlive_beginExchange, same, if_pos on, KeepAlive.start?, dif_pos positive]
  · rw [taken, Nat.zero_add, Nat.one_mul]
    exact Nat.le_refl _

/-! ## Every session -/

variable {start : Connection}

theorem Reaches.unasked (reaches : Reaches start inputs connection) (unasked : start.Unasked)
    (silent : ∀ input ∈ inputs, input.asksPing = false) : connection.Unasked := by
  induction reaches with
  | start => exact unasked
  | step reaches step ih =>
    obtain ⟨items, advances⟩ := advances_of_step? step
    exact advances.unasked (ih silent)
  | apply reaches input ih =>
    obtain ⟨earlier, now⟩ := List.forall_mem_append.mp silent
    exact (ih earlier).apply (now input (List.mem_singleton_self input))

theorem Reaches.rank_le (reaches : Reaches start inputs connection) :
    connection.phase.rank ≤ start.phase.rank := by
  induction reaches with
  | start => exact Nat.le_refl _
  | step reaches step ih => exact (rank_le_of_step step).trans ih
  | apply reaches input ih => rwa [(learns_apply ..).rank_eq]

/-- The pings keep to the schedule as long as nobody asks for others. -/
theorem Reaches.paced {interval opened : Nat} (reaches : Reaches start inputs connection)
    (unasked : start.Unasked) (exchanging : start.phase.rank ≤ 3)
    (paced : Paced interval opened (scheduledPing start.options) start)
    (silent : ∀ input ∈ inputs, input.asksPing = false) :
    Paced interval opened (scheduledPing start.options) connection := by
  induction reaches with
  | start => exact paced
  | step reaches step ih =>
    obtain ⟨items, advances⟩ := advances_of_step? step
    rw [← reaches.options_eq] at ih ⊢
    exact (ih silent).step (reaches.unasked unasked silent)
      (reaches.rank_le.trans exchanging) advances
  | apply reaches input ih => exact (ih (List.forall_mem_append.mp silent).1).apply input

/-- Once the connection has begun to close there are no more pings. -/
theorem Reaches.pings_of_closing (reaches : Reaches start inputs connection)
    (unasked : start.Unasked) (closing : start.phase.rank < 3)
    (silent : ∀ input ∈ inputs, input.asksPing = false) : connection.pings = start.pings := by
  induction reaches with
  | start => rfl
  | @step inputs connection next reaches step ih =>
    obtain ⟨items, advances⟩ := advances_of_step? step
    have lower := reaches.rank_le.trans_lt closing
    refine Eq.trans ?_ (ih silent)
    cases advances.paces with
    | opens upgrading => omega
    | begins running =>
      rw [running] at lower
      exact absurd lower (Nat.lt_irrefl 3)
    | sends writing | fails writing =>
      rw [writing] at lower
      exact absurd lower (Nat.lt_irrefl 3)
    | rests _ _ others => exact advances.pings_of_others (reaches.unasked unasked silent) others
  | apply reaches input ih =>
    exact (pings_apply ..).trans (ih (List.forall_mem_append.mp silent).1)

/-- Without keep-alive nothing is ever scheduled. -/
structure Unscheduled (connection : Connection) : Prop where
  off : connection.options.keepAlive = false
  keepAlive : connection.keepAlive = none
  pinging : connection.isPinging = false
  pings : connection.pings = []

theorem Unscheduled.step (unscheduled : connection.Unscheduled) (unasked : connection.Unasked)
    (advances : connection.Advances items next) : next.Unscheduled := by
  have off : next.options.keepAlive = false :=
    (congrArg (·.options.keepAlive) advances.surroundings_eq).trans unscheduled.off
  have unwritten (writing : connection.phase = .writing .keepAlive) : False := by
    have pinging := unscheduled.pinging
    rw [isPinging, writing] at pinging
    cases pinging
  cases advances.paces with
  | opens upgrading running starts =>
    have none := attempted_of_not_writing fun _ => not_writing_of_rank upgrading
    refine ⟨off, ?_, by rw [isPinging, running], ?_⟩
    · rw [starts, unscheduled.off, if_neg Bool.false_ne_true]
    · rw [advances.pings_eq, none, unscheduled.pings]
      rfl
  | begins _ scheduled =>
    rw [unscheduled.keepAlive] at scheduled
    cases scheduled
  | sends writing | fails writing => exact (unwritten writing).elim
  | rests pinging same others =>
    exact ⟨off, same.trans unscheduled.keepAlive, pinging.trans unscheduled.pinging,
      (advances.pings_of_others unasked others).trans unscheduled.pings⟩

theorem Unscheduled.apply (unscheduled : connection.Unscheduled) (input : Input) :
    (connection.apply input).Unscheduled where
  off := by rw [options_apply, unscheduled.off]
  keepAlive := (keepAlive_apply ..).trans unscheduled.keepAlive
  pinging := (isPinging_apply ..).trans unscheduled.pinging
  pings := (pings_apply ..).trans unscheduled.pings

theorem Reaches.unscheduled (reaches : Reaches (attach url options nonce keys) inputs connection)
    (off : options.keepAlive = false) (silent : ∀ input ∈ inputs, input.asksPing = false) :
    connection.Unscheduled := by
  induction reaches with
  | start =>
    refine ⟨off, rfl, rfl, ?_⟩
    rw [pings, sentFrames, written_attach]
    rfl
  | step reaches step ih =>
    obtain ⟨items, advances⟩ := advances_of_step? step
    have start : (attach url options nonce keys).Unasked :=
      unasked_of_upgrading .start (Nat.le_succ 4)
    exact (ih silent).step (reaches.unasked start silent) advances
  | apply reaches input ih => exact (ih (List.forall_mem_append.mp silent).1).apply input

/-- A connection that is connected and has nothing left to do is not behind its schedule. -/
theorem Paced.pings_ne_nil {interval opened : Nat} {ping : Frame}
    (paced : Paced interval opened ping connection) (fits : connection.Fits)
    (due : opened + interval ≤ connection.now) (connected : connection.isConnected = true)
    (working : connection.stream.writes = .working) (stuck : connection.advance? = none) :
    connection.pings ≠ [] := by
  have running : connection.phase = .connected := by
    refine fits.connected_of_not_writing connected fun job writing => ?_
    simp [advance?, writing, stepWriting, working] at stuck
  obtain ⟨reads, -⟩ := waits_of_stuck running stuck
  obtain ⟨schedule, scheduled, -, -, first⟩ := paced.ahead
  have early := reads.noPing schedule scheduled
  intro none
  rcases first with unmoved | taken | ⟨detail, broken⟩
  · rw [KeepAlive.isDue, decide_eq_false_iff_not, unmoved] at early
    exact early due
  · simp [Connection.taken, none, isPinging, running] at taken
  · rw [working] at broken
    cases broken

/-- Keep-alive pings keep to their rate. Without keep-alive there are no pings at all, unless a user
asks for one. With it, at any time after the connection opened there is at most one ping for each
whole interval since then, each of them with the message of the options; there is one when the first
interval is over and the connection, still connected and able to write, has nothing left to do; and
once the connection has begun to close, or is over, there are no more. -/
theorem Reaches.pings_paced
    (reaches : Reaches (attach url options nonce keys) inputs connection) :
    (options.keepAlive = false → (∀ input ∈ inputs, input.asksPing = false) →
        connection.pings = []) ∧
      ∀ opened later session, options.keepAlive = true → 0 < options.keepAliveInterval →
        connection.Opens opened → Reaches opened later session →
        (∀ input ∈ later, input.asksPing = false) →
        session.pings.length ≤ (session.now - opened.now) / options.keepAliveInterval ∧
        (∀ frame ∈ session.pings, frame = .ping (options.keepAliveMessage.getD [])) ∧
        (session.now < opened.now + options.keepAliveInterval → session.pings = []) ∧
        (opened.now + options.keepAliveInterval ≤ session.now → session.isConnected = true →
          session.stream.writes = .working → session.advance? = none → session.pings ≠ []) ∧
        (session.phase.rank < 3 → ∀ more ended, Reaches session more ended →
          (∀ input ∈ more, input.asksPing = false) → ended.pings = session.pings) := by
  refine ⟨fun off silent => (reaches.unscheduled off silent).pings, ?_⟩
  intro opened later session on positive opens reached silent
  have opening := reaches.step opens.step
  obtain ⟨upgrading, subprotocol, rest, begun⟩ := opens.beginExchange
  have exchanging : opened.phase.rank ≤ 3 := by rw [begun]; exact Nat.le_refl 3
  have unasked : opened.Unasked := by
    obtain ⟨items, advances⟩ := advances_of_step? opens.step
    exact advances.unasked (unasked_of_upgrading reaches (Nat.le_of_eq upgrading.symm))
  have paced : Paced options.keepAliveInterval opened.now (scheduledPing options) session := by
    have begins := opens.paced reaches on positive
    rw [← show opened.options = options from opening.options_eq] at begins ⊢
    exact reached.paced unasked exchanging begins silent
  have rate : session.pings.length * options.keepAliveInterval ≤ session.now - opened.now := by
    have fewer : session.pings.length * options.keepAliveInterval ≤
        session.taken * options.keepAliveInterval :=
      Nat.mul_le_mul_right _ (Nat.le_add_right ..)
    have past := paced.past
    omega
  refine ⟨(Nat.le_div_iff_mul_le positive).mpr rate, paced.pings, ?_, ?_, ?_⟩
  · intro early
    by_contra some
    have one := Nat.mul_le_mul_right options.keepAliveInterval (List.length_pos_iff.mpr some)
    omega
  · exact paced.pings_ne_nil (reached.fits (opening.fits (fits_attach ..)))
  · exact fun closing more ended after quiet =>
      after.pings_of_closing (reached.unasked unasked silent) closing quiet

/-- A ping is two and a half intervals late because writes stall, and is not followed by those that
were missed. -/
theorem pings_paced_of_stall :
    let options : Options :=
      { keepAlive := true, keepAliveInterval := 1000, keepAliveMessage := some [0x70] }
    let start := attach plainStart.url options plainStart.nonce plainStart.keys
    let heard := (start.apply (.arrive agreement)).stepUpTo 1
    let opened := heard.stepUpTo 1
    let stalled := ([.setWrites .stalled, .advance 3500].foldl apply opened).stepUpTo 1
    let session := (stalled.apply (.setWrites .working)).stepUpTo 2
    let later : List Input := [.setWrites .stalled, .advance 3500, .setWrites .working]
    Reaches start [.arrive agreement] heard ∧ options.keepAlive = true ∧
      0 < options.keepAliveInterval ∧ heard.Opens opened ∧ Reaches opened later session ∧
      (∀ input ∈ later, input.asksPing = false) ∧
      session.now = 3500 ∧ session.isConnected = true ∧ session.stream.writes = .working ∧
      session.advance? = none ∧
      session.pings.length ≤ (session.now - opened.now) / options.keepAliveInterval ∧
      (∀ frame ∈ session.pings, frame = .ping [0x70]) ∧ session.pings ≠ [] := by
  intro options start heard opened stalled session later
  have reaches : Reaches start [.arrive agreement] heard := (Reaches.start.apply _).stepUpTo 1
  obtain ⟨steps, unopened, isOpen⟩ :
      heard.step?.isSome = true ∧ heard.isConnected = false ∧ opened.isConnected = true := by
    decide +kernel
  have opens : heard.Opens opened := ⟨step?_of_isSome steps, unopened, isOpen⟩
  have reached : Reaches opened later session :=
    (((Reaches.start.foldl_apply [.setWrites .stalled, .advance 3500]).stepUpTo 1).apply
      (.setWrites .working)).stepUpTo 2
  have silent : ∀ input ∈ later, input.asksPing = false := by
    simp [later, Input.asksPing]
  obtain ⟨now, connected, working, stuck, due⟩ :
      session.now = 3500 ∧ session.isConnected = true ∧ session.stream.writes = .working ∧
        session.advance?.isNone = true ∧
        opened.now + options.keepAliveInterval ≤ session.now := by
    decide +kernel
  rw [Option.isNone_iff_eq_none] at stuck
  obtain ⟨rate, message, -, first, -⟩ :=
    (Reaches.pings_paced reaches).2 opened later session rfl (by decide) opens reached silent
  exact ⟨reaches, rfl, by decide, opens, reached, silent, now, connected, working, stuck, rate,
    message, first due connected working stuck⟩

end Connection

end WebSocket
