import WebSocket.Proofs.Connection.Outgoing
import WebSocket.Proofs.Connection.Timely
import WebSocket.Proofs.Subprotocols

/-! # Nothing happens before a verified upgrade

In a timely run the connection is upgraded exactly when, before the time for the upgrade is up, the
request is on the wire and what the server has sent begins with a head that the request accepts
(`Agreed`). The invariant says how far the upgrade has come (`Progress`); an upgrade that failed
leaves behind why no head could have been accepted any more (`Hopeless`).
-/

namespace WebSocket

/-! ## Heads that are accepted -/

namespace UpgradeRequest

/-- The bytes begin with a head of a length that the request accepts, and that agrees on a
subprotocol. -/
def Accepts (request : UpgradeRequest) (bytes : Bytes) (length : Nat)
    (subprotocol : Option String) : Prop :=
  Http.headLength? bytes = some length ∧
    ∃ head, Http.ResponseHead.parse? (bytes.take length) = some head ∧
      request.verify head = .ok subprotocol

variable {request : UpgradeRequest} {bytes : Bytes} {length : Nat} {subprotocol : Option String}

/-- What follows a head does not matter. -/
theorem Accepts.append (accepts : request.Accepts bytes length subprotocol) (more : Bytes) :
    request.Accepts (bytes ++ more) length subprotocol := by
  obtain ⟨found, head, parsed, verified⟩ := accepts
  refine ⟨Http.headLength?_append more found, head, ?_, verified⟩
  rw [List.take_append_of_le_length (Http.bounds_of_headLength? found).2, parsed]

/-- Bytes begin with one head at most. -/
theorem Accepts.subprotocol_eq {other : Nat} {otherSubprotocol : Option String}
    (accepts : request.Accepts bytes length subprotocol)
    (also : request.Accepts bytes other otherSubprotocol) : otherSubprotocol = subprotocol := by
  obtain ⟨found, head, parsed, verified⟩ := accepts
  obtain ⟨again, same, alsoParsed, alsoVerified⟩ := also
  cases found.symm.trans again
  cases parsed.symm.trans alsoParsed
  cases verified.symm.trans alsoVerified
  rfl

end UpgradeRequest

/-- Whether an item only stands on the event stream after an upgrade. -/
def StreamItem.followsUpgrade : StreamItem → Bool
  | .event told =>
    told.status = .entered .upgraded || told.status = .entered .connected || told.frame.isSome
  | .failure _ => false

namespace Connection

open StreamItem (entered)

variable {connection next : Connection} {items : List StreamItem} {inputs : List Input}

/-! ## The request and the answer -/

/-- The request that a connection makes, if it can make one. -/
def request (connection : Connection) : Except SetupError UpgradeRequest :=
  UpgradeRequest.compose connection.url connection.options.origin connection.options.headers
    connection.options.subprotocols connection.nonce

theorem request_apply (connection : Connection) (input : Input) :
    (connection.apply input).request = connection.request := by
  obtain ⟨_, _, _, _, _, same⟩ := exists_apply_eq connection input
  rw [same]
  rfl

variable {start : Connection}

theorem Reaches.request_eq (reaches : Reaches start inputs connection) :
    connection.request = start.request := by
  induction reaches with
  | start => rfl
  | step reaches step ih =>
    obtain ⟨items, advances⟩ := advances_of_step? step
    have same (before : Connection) : before.request =
        UpgradeRequest.compose before.surroundings.url before.surroundings.options.origin
          before.surroundings.options.headers before.surroundings.options.subprotocols
          before.surroundings.nonce := rfl
    rw [same, advances.surroundings_eq, ← same, ih]
  | apply reaches input ih => rw [request_apply, ih]

/-- Before the time for the upgrade was up, the request and nothing else was on the wire, and what
the server had sent began with a head that the request accepts. -/
def Agreed (start : Connection) (inputs : List Input) (subprotocol : Option String) : Prop :=
  ∃ early moment request length, early <+: inputs ∧ Timely start early moment ∧
    elapsed early < start.options.upgradeTimeout ∧ start.request = .ok request ∧
    moment.written = #[.request request] ∧ request.Accepts (received early) length subprotocol

/-- Whatever else happens, before the time for the upgrade is up the server will not have sent a
head of a size that is allowed and that the request accepts. -/
def Hopeless (start : Connection) (inputs : List Input) : Prop :=
  ∀ later early, early <+: inputs ++ later → elapsed early < start.options.upgradeTimeout →
    ∀ request length subprotocol, start.request = .ok request →
      request.Accepts (received early) length subprotocol → Http.maxHead < length

theorem Agreed.append {subprotocol : Option String} (agreed : Agreed start inputs subprotocol)
    (more : List Input) : Agreed start (inputs ++ more) subprotocol := by
  obtain ⟨early, moment, request, length, before, rest⟩ := agreed
  exact ⟨early, moment, request, length, before.trans (List.prefix_append ..), rest⟩

theorem Hopeless.append (hopeless : Hopeless start inputs) (more : List Input) :
    Hopeless start (inputs ++ more) := by
  intro later early before
  rw [List.append_assoc] at before
  exact hopeless (more ++ later) early before

/-- More inputs leave the bytes that were received before. -/
theorem exists_received {early inputs : List Input} (before : early <+: inputs) :
    ∃ more, received inputs = received early ++ more := by
  obtain ⟨later, rfl⟩ := before
  exact ⟨_, received_append ..⟩

theorem accepts_received {early : List Input} {request : UpgradeRequest} {length : Nat}
    {subprotocol : Option String} (before : early <+: inputs)
    (accepts : request.Accepts (received early) length subprotocol) :
    request.Accepts (received inputs) length subprotocol := by
  obtain ⟨more, same⟩ := exists_received before
  rw [same]
  exact accepts.append more

/-- There is no hope once reading has ended before the head did. -/
theorem hopeless_of_ended (ended : inputs.any Input.endsReading = true)
    (missing : Http.headLength? (received inputs) = none) : Hopeless start inputs := by
  intro later early before _ request length subprotocol _ accepts
  have whole := accepts_received before accepts
  rw [received_append, ended, if_pos rfl, List.append_nil] at whole
  rw [whole.1] at missing
  cases missing

/-- There is no hope once the time is up. -/
theorem hopeless_of_late (late : start.options.upgradeTimeout ≤ elapsed inputs)
    (missing : Http.headLength? (received inputs) = none) : Hopeless start inputs := by
  intro later early before inTime request length subprotocol _ accepts
  rcases List.prefix_or_prefix_of_prefix before (List.prefix_append inputs later) with
    earlier | ⟨more, rfl⟩
  · rw [(accepts_received earlier accepts).1] at missing
    cases missing
  · rw [elapsed_append] at inTime
    omega

/-- There is no hope when no head that is accepted can follow what was received. -/
theorem hopeless_of_received
    (refused : ∀ more request length subprotocol, start.request = .ok request →
      request.Accepts (received inputs ++ more) length subprotocol → Http.maxHead < length) :
    Hopeless start inputs := by
  intro later early before _ request length subprotocol composed accepts
  have whole := accepts_received before accepts
  rw [received_append] at whole
  exact refused _ request length subprotocol composed whole

/-! ## How far the upgrade has come -/

/-- Nothing that only comes after an upgrade has come. -/
structure Untouched (connection : Connection) : Prop where
  subprotocol : connection.subprotocol = none
  frames : connection.sentFrames = []
  upgraded : .upgraded ∉ connection.states
  connected : .connected ∉ connection.states
  items : ∀ item ∈ connection.items, item.followsUpgrade = false

/-- The upgrade is still going on. -/
def Upgrading (start connection : Connection) : Prop :=
  connection.Untouched ∧
    match connection.phase with
    | .requesting deadline =>
      deadline = start.options.upgradeTimeout ∧ connection.written = #[]
    | .awaitingHead request deadline _ =>
      deadline = start.options.upgradeTimeout ∧ start.request = .ok request ∧
        connection.written = #[.request request]
    | _ => False

/-- The upgrade has succeeded. -/
structure Upgraded (start : Connection) (inputs : List Input) (connection : Connection) : Prop where
  agreed : Agreed start inputs connection.subprotocol
  connected : .connected ∈ connection.states
  told : connection.callers.socketHeld = true → entered .connected ∈ connection.items

/-- The upgrade has failed. -/
structure Failed (start : Connection) (inputs : List Input) (connection : Connection) : Prop where
  untouched : connection.Untouched
  state : connection.state = .aborted
  failure : connection.callers.socketHeld = true →
    ∃ error, connection.items.toList.getLast? = some (.failure error)
  reason : connection.written = #[] ∨ connection.cancelled = true ∨ Hopeless start inputs

/-- How far the upgrade has come in a timely run. -/
inductive Progress (start : Connection) (inputs : List Input) (connection : Connection) : Prop where
  | goesOn (upgrading : Upgrading start connection)
      (inTime : elapsed inputs < start.options.upgradeTimeout)
  | succeeded (upgraded : Upgraded start inputs connection) (late : connection.phase.rank ≤ 3)
  | failed (failed : Failed start inputs connection) (ended : connection.phase = .ended)

/-- Either nothing is written yet, or the request alone is. -/
theorem Upgrading.phase_cases (upgrading : Upgrading start connection) :
    (connection.phase = .requesting start.options.upgradeTimeout ∧ connection.written = #[]) ∨
      ∃ request reader,
        connection.phase = .awaitingHead request start.options.upgradeTimeout reader ∧
          start.request = .ok request ∧ connection.written = #[.request request] := by
  obtain ⟨-, far⟩ := upgrading
  cases phase : connection.phase with
  | requesting deadline =>
    rw [phase] at far
    obtain ⟨rfl, unsent⟩ := far
    exact .inl ⟨rfl, unsent⟩
  | awaitingHead request deadline reader =>
    rw [phase] at far
    obtain ⟨rfl, sent⟩ := far
    exact .inr ⟨request, reader, rfl, sent⟩
  | dialing | securing | connected | writing | awaitingClose | ended =>
    rw [phase] at far
    exact far.elim

theorem Upgrading.rank (upgrading : Upgrading start connection) :
    4 ≤ connection.phase.rank ∧ connection.phase.rank ≤ 5 := by
  rcases upgrading.phase_cases with ⟨phase, -⟩ | ⟨_, _, phase, -⟩
  all_goals simp [phase, Phase.rank]

theorem Progress.opened (progress : Progress start inputs connection) :
    connection.phase.rank ≤ 5 := by
  cases progress with
  | goesOn upgrading => exact upgrading.rank.2
  | succeeded upgraded late => exact late.trans (by decide)
  | failed failed ended =>
    rw [ended]
    exact Nat.zero_le 5

theorem Untouched.congr (untouched : connection.Untouched)
    (subprotocol : next.subprotocol = connection.subprotocol)
    (frames : next.sentFrames = connection.sentFrames) (states : next.states = connection.states)
    (items : next.items = connection.items) : next.Untouched where
  subprotocol := subprotocol.trans untouched.subprotocol
  frames := frames.trans untouched.frames
  upgraded := by
    rw [states]
    exact untouched.upgraded
  connected := by
    rw [states]
    exact untouched.connected
  items := by
    rw [items]
    exact untouched.items

/-! ## States that are passed -/

/-- One connection comes from another by entering states, while its subprotocol stays. -/
structure Passes (connection : Connection) (states : List ConnectionState) (next : Connection) :
    Prop where
  subprotocol : next.subprotocol = connection.subprotocol
  states : next.states.toList = connection.states.toList ++ states

namespace Passes

variable {before middle : Connection} {first second : List ConnectionState}

theorem quiet (subprotocol : next.subprotocol = connection.subprotocol)
    (states : next.states = connection.states) : Passes connection [] next :=
  ⟨subprotocol, by rw [states, List.append_nil]⟩

theorem trans (early : Passes connection first middle) (late : Passes middle second next) :
    Passes connection (first ++ second) next :=
  ⟨late.subprotocol.trans early.subprotocol, by
    rw [late.states, early.states, List.append_assoc]⟩

/-- What comes first enters no state. -/
theorem after (passes : Passes before first next)
    (subprotocol : before.subprotocol = connection.subprotocol)
    (states : before.states = connection.states) : Passes connection first next :=
  (quiet subprotocol states).trans passes

/-- What comes last enters no state. -/
theorem andThen (passes : Passes connection first middle)
    (subprotocol : next.subprotocol = middle.subprotocol) (states : next.states = middle.states) :
    Passes connection first next := by
  have both := passes.trans (quiet subprotocol states)
  rwa [List.append_nil] at both

theorem enter (connection : Connection) (state : ConnectionState) :
    Passes connection [state] (connection.enter state) :=
  ⟨rfl, Array.toList_push⟩

theorem fail (connection : Connection) (state : ConnectionState) (error : Error) :
    Passes connection [state] (connection.fail state error) :=
  (enter connection state).andThen rfl rfl

theorem failUpgrade (connection : Connection) (error : Error) :
    Passes connection [.aborted] (connection.failUpgrade error) := by
  have failing (reported : Connection) :
      Passes reported [.aborted] (reported.shutDown.fail .aborted error) :=
    (fail reported.shutDown .aborted error).after rfl rfl
  have reporting (status : ConnectionStatus) :
      Passes connection [.aborted] ((connection.report status).shutDown.fail .aborted error) :=
    (failing _).after rfl rfl
  cases error with
  | upgrade cause => cases cause <;> exact reporting _
  | setup | transport | violation | call => exact failing connection

theorem finishClosing (connection : Connection) :
    Passes connection [.disconnected] connection.finishClosing := by
  have entering : Passes connection [.disconnected] (connection.shutDown.enter .disconnected) :=
    (enter connection.shutDown .disconnected).after rfl rfl
  exact entering.andThen rfl rfl

theorem beginExchange (connection : Connection) (subprotocol : Option String) (rest : Bytes) :
    (connection.beginExchange subprotocol rest).subprotocol = subprotocol ∧
      (connection.beginExchange subprotocol rest).states.toList =
        connection.states.toList ++ [.upgraded, .connected] := by
  let before := { connection.withInbox rest with subprotocol }
  have entering : Passes before [.upgraded, .connected]
      (connection.beginExchange subprotocol rest) :=
    ((enter before .upgraded).trans (enter _ .connected)).andThen rfl rfl
  exact ⟨entering.subprotocol, entering.states⟩

theorem settle (connection : Connection) (job : Job) (error : Option TransportError) :
    ∃ states, Passes connection states (connection.settle job error) := by
  cases job with
  | command | keepAlive | pong => exact ⟨_, quiet rfl rfl⟩
  | close reason id =>
    cases error with
    | none => cases id <;> exact ⟨_, quiet rfl rfl⟩
    | some cause => cases id <;> exact ⟨_, (finishClosing _).after rfl rfl⟩
  | echo => exact ⟨_, finishClosing connection⟩
  | refusal => exact ⟨_, (fail connection.shutDown ..).after rfl rfl⟩

end Passes

/-- Once frames go both ways the subprotocol stays, and no state is forgotten. -/
theorem Advances.passes (advances : connection.Advances items next)
    (late : connection.phase.rank ≤ 3) : ∃ states, Passes connection states next := by
  have handshaking {phase : Phase} (same : connection.phase = phase) (rank : 4 ≤ phase.rank) :
      ∃ states, Passes connection states next := by
    rw [same] at late
    omega
  cases advances with
  | cancelsDialing phase | dialingFails phase | hostUnfit phase | beginsSecuring phase
  | opensPlain phase | cancelsSecuring phase | securingFails phase | opensSecure phase
  | requests phase | readsHead phase | upgrades phase =>
    exact handshaking phase (by simp [Phase.rank])
  | upgradeFails fails =>
    rcases fails.phase_cases with ⟨_, phase⟩ | ⟨_, _, _, phase⟩
    all_goals exact handshaking phase (by simp [Phase.rank])
  | takesSend | pings | refuses | collects | keepsPart | dropsFrame | usersRun =>
    exact ⟨_, .quiet rfl rfl⟩
  | answersPing | hearsPong | receives => exact ⟨_, .quiet rfl rfl⟩
  | @takesClose running going id reason queue queued =>
    let taken := { connection with callers := { connection.callers with queue } }
    exact ⟨_, .andThen (.after (.enter taken _) rfl rfl) rfl rfl⟩
  | abandoned => exact ⟨_, (Passes.enter connection _).andThen rfl rfl⟩
  | @peerCloses reads frame message takes assembly =>
    let reported := (connection.assembled assembly).reportFrame .closeReceived message
    exact ⟨_, .andThen (.after (.enter reported _) rfl rfl) rfl rfl⟩
  | stops => exact ⟨_, (Passes.fail connection.shutDown ..).after rfl rfl⟩
  | loses => exact ⟨_, .fail ..⟩
  | peerAnswers => exact ⟨_, (Passes.finishClosing _).after rfl rfl⟩
  | givesUpPeer => exact ⟨_, (Passes.finishClosing _).after rfl rfl⟩
  | endsWait => exact ⟨_, .finishClosing connection⟩
  | @writes job =>
    obtain ⟨states, passes⟩ := Passes.settle (connection.record (connection.framesOf job)) job none
    exact ⟨states, passes.after rfl rfl⟩
  | failsToWrite => exact Passes.settle ..

/-! ## Failing -/

theorem cancelled_failUpgrade (connection : Connection) (error : Error) :
    (connection.failUpgrade error).cancelled = connection.cancelled :=
  congrArg Surroundings.cancelled (surroundings_failUpgrade ..)

theorem followsUpgrade_failUpgrade (error : Error) : ∀ item ∈
    upgradeReport error ++ [entered .aborted, .failure error], item.followsUpgrade = false := by
  cases error with
  | upgrade cause => cases cause <;> simp [upgradeReport, StreamItem.followsUpgrade]
  | _ => simp [upgradeReport, StreamItem.followsUpgrade]

theorem untouched_failUpgrade (untouched : connection.Untouched) (error : Error) :
    (connection.failUpgrade error).Untouched where
  subprotocol := (Passes.failUpgrade connection error).subprotocol.trans untouched.subprotocol
  frames := by
    rw [sentFrames, written_failUpgrade]
    exact untouched.frames
  upgraded := by
    rw [Array.mem_def, (Passes.failUpgrade connection error).states, List.mem_append, not_or]
    exact ⟨mt Array.mem_def.mpr untouched.upgraded, by decide⟩
  connected := by
    rw [Array.mem_def, (Passes.failUpgrade connection error).states, List.mem_append, not_or]
    exact ⟨mt Array.mem_def.mpr untouched.connected, by decide⟩
  items := by
    intro item member
    rw [Array.mem_def, (Tells.failUpgrade connection error).items, List.mem_append] at member
    rcases member with before | now
    · exact untouched.items item (Array.mem_def.mpr before)
    · split at now
      · exact followsUpgrade_failUpgrade error item now
      · cases now

theorem failed_failUpgrade (untouched : connection.Untouched) (error : Error)
    (reason : connection.written = #[] ∨ connection.cancelled = true ∨ Hopeless start inputs) :
    Failed start inputs (connection.failUpgrade error) where
  untouched := untouched_failUpgrade untouched error
  state := rfl
  failure := by
    have tells := Tells.failUpgrade connection error
    intro held
    rw [tells.held] at held
    rw [tells.items, if_pos held]
    exact ⟨error, by simp⟩
  reason := by
    rw [written_failUpgrade, cancelled_failUpgrade]
    exact reason

variable {url : Url} {options : Options} {nonce : Bytes} {keys : Nat → MaskKey}

/-- While the response head is being read, no end of it has been found. -/
theorem Reaches.reading (reaches : Reaches (attach url options nonce keys) inputs connection)
    {request : UpgradeRequest} {deadline : Nat} {reader : Http.HeadReader}
    (waiting : connection.phase = .awaitingHead request deadline reader) :
    reader.Clean ∧ reader.buffer ++ connection.stream.inbox = received inputs := by
  obtain ⟨told, accounts, -⟩ := reaches.accounts
  rw [Accounts, waiting] at accounts
  exact accounts.2

/-- An upgrade that fails has no hope any more, unless it was told to stop or could not even write
the request. -/
theorem UpgradeFails.failed {error : Error} (fails : connection.UpgradeFails error)
    (upgrading : Upgrading (attach url options nonce keys) connection)
    (reaches : Reaches (attach url options nonce keys) inputs connection) :
    Failed (attach url options nonce keys) inputs (connection.failUpgrade error) := by
  obtain ⟨untouched, far⟩ := upgrading
  refine failed_failUpgrade untouched error ?_
  -- With an empty inbox the reader holds all that was received, and found no end in it.
  have missing {request : UpgradeRequest} {deadline : Nat} {reader : Http.HeadReader}
      (waiting : connection.phase = .awaitingHead request deadline reader)
      (empty : connection.stream.inbox = []) : Http.headLength? (received inputs) = none := by
    obtain ⟨clean, whole⟩ := reaches.reading waiting
    rw [← whole, empty, List.append_nil]
    exact clean.missing
  have ended {ending : StreamEnd} (ended : connection.stream.ending = some ending) :
      inputs.any Input.endsReading = true := by
    rw [← reaches.isSome_ending rfl, ended]
    rfl
  cases fails with
  | cancelledRequest requesting | uncomposed requesting | unsent requesting
  | unsentInTime requesting =>
    rw [requesting] at far
    exact .inl far.2
  | cancelledHead waiting cancelled => exact .inr (.inl cancelled)
  | closed waiting going empty ending | unreadable waiting going empty ending =>
    exact .inr (.inr (hopeless_of_ended (ended ending) (missing waiting empty)))
  | unansweredInTime waiting going empty openEnded late =>
    rw [waiting] at far
    obtain ⟨rfl, -⟩ := far
    have now : connection.now = elapsed inputs := by
      rw [reaches.now_eq]
      exact Nat.zero_add _
    rw [now] at late
    exact .inr (.inr (hopeless_of_late late (missing waiting empty)))
  | malformed waiting going arrived read =>
    obtain ⟨clean, whole⟩ := reaches.reading waiting
    refine .inr (.inr (hopeless_of_received fun more request length subprotocol _ accepts => ?_))
    rw [← whole] at accepts
    -- Whatever follows, the head ends where the reader found its end, and cannot be read there.
    rcases read with unreadable | tooLong
    · obtain ⟨ends, found, unread⟩ := clean.read_unreadable unreadable
      obtain ⟨same, head, parsed, -⟩ := accepts
      rw [Http.headLength?_append more found] at same
      cases same
      rw [List.take_append_of_le_length (Http.bounds_of_headLength? found).2, unread] at parsed
      cases parsed
    · exact clean.read_tooLong tooLong accepts.1
  | refused waiting going arrived read refused =>
    obtain ⟨clean, whole⟩ := reaches.reading waiting
    rw [waiting] at far
    obtain ⟨-, composed, -⟩ := far
    refine .inr (.inr (hopeless_of_received fun more request length subprotocol same accepts => ?_))
    rw [composed] at same
    cases same
    obtain ⟨ends, found, parses, -⟩ := clean.read_complete (Prod.ext read rfl)
    obtain ⟨same, head, parsed, verified⟩ := accepts
    rw [← whole, Http.headLength?_append more found] at same
    cases same
    obtain ⟨-, fits⟩ := Http.bounds_of_headLength? found
    rw [← whole, List.take_append_of_le_length fits, parses] at parsed
    cases parsed
    rw [refused] at verified
    cases verified

/-! ## What a step does to the upgrade -/

/-- An upgrade that has succeeded stays so. -/
theorem Upgraded.step (upgraded : Upgraded start inputs connection)
    (advances : connection.Advances items next) (late : connection.phase.rank ≤ 3) :
    Upgraded start inputs next := by
  obtain ⟨states, passes⟩ := advances.passes late
  have tells := advances.tells
  refine ⟨?_, ?_, fun held => ?_⟩
  · rw [passes.subprotocol]
    exact upgraded.agreed
  · rw [Array.mem_def, passes.states]
    exact List.mem_append_left _ (Array.mem_def.mp upgraded.connected)
  · rw [tells.held] at held
    rw [Array.mem_def, tells.items]
    exact List.mem_append_left _ (Array.mem_def.mp (upgraded.told held))

theorem upgraded_beginExchange {subprotocol : Option String}
    (agreed : Agreed start inputs subprotocol) (rest : Bytes) :
    Upgraded start inputs (connection.beginExchange subprotocol rest) where
  agreed := agreed
  connected := by
    rw [Array.mem_def, (Passes.beginExchange ..).2]
    simp
  told := by
    have tells := Tells.beginExchange connection subprotocol rest
    intro held
    rw [tells.held] at held
    rw [Array.mem_def, tells.items, if_pos held]
    simp

/-- What a step makes of an upgrade that is going on while there is time left. -/
theorem Upgrading.step (upgrading : Upgrading (attach url options nonce keys) connection)
    (timely : Timely (attach url options nonce keys) inputs connection)
    (inTime : elapsed inputs < options.upgradeTimeout)
    (advances : connection.Advances items next) :
    Progress (attach url options nonce keys) inputs next := by
  have fails {error : Error} (fails : connection.UpgradeFails error) :
      Progress (attach url options nonce keys) inputs (connection.failUpgrade error) :=
    .failed (fails.failed upgrading timely.reaches) rfl
  obtain ⟨untouched, far⟩ := upgrading
  cases advances with
  | upgradeFails failing => exact fails failing
  | @requests deadline requesting going request composed working =>
    rw [requesting] at far
    obtain ⟨due, nothing⟩ := far
    have frames : (connection.written.push (.request request)).toList.filterMap Written.frame? =
        connection.written.toList.filterMap Written.frame? := by
      simp [Written.frame?]
    refine .goesOn ⟨untouched.congr rfl frames rfl rfl, due, ?_, ?_⟩ inTime
    · exact timely.reaches.request_eq.symm.trans composed
    · exact congrArg (·.push (.request request)) nothing
  | readsHead waiting =>
    rw [waiting] at far
    exact .goesOn ⟨untouched.congr rfl rfl rfl rfl, far⟩ inTime
  | @upgrades request deadline reader waiting going arrived head rest after unread read
      subprotocol verified =>
    rw [waiting] at far
    obtain ⟨-, composed, onWire⟩ := far
    obtain ⟨clean, whole⟩ := timely.reaches.reading waiting
    obtain ⟨length, found, parsed, -⟩ := clean.read_complete read
    rw [whole] at found parsed
    have agreed : Agreed (attach url options nonce keys) inputs subprotocol :=
      ⟨inputs, connection, request, length, List.prefix_rfl, timely, inTime, composed, onWire,
        found, head, parsed, verified⟩
    exact .succeeded (upgraded_beginExchange agreed _) (Nat.le_refl 3)
  | usersRun => exact .goesOn ⟨untouched.congr rfl rfl rfl rfl, far⟩ inTime
  | cancelsDialing phase | dialingFails phase | hostUnfit phase | beginsSecuring phase
  | opensPlain phase | cancelsSecuring phase | securingFails phase | opensSecure phase
  | stops phase | takesSend phase | takesClose phase | abandoned phase | pings phase
  | writes phase | failsToWrite phase | dropsFrame phase | peerAnswers phase | givesUpPeer phase
  | endsWait phase =>
    rw [phase] at far
    exact far.elim
  | refuses reads | collects reads | answersPing reads | hearsPong reads | peerCloses reads
  | receives reads | loses reads =>
    rw [reads.running] at far
    exact far.elim
  | keepsPart listening =>
    rcases listening with reads | ⟨deadline, phase⟩
    · rw [reads.running] at far
      exact far.elim
    · rw [phase] at far
      exact far.elim

/-- Once the upgrade is over, a step leaves it as it is. -/
theorem Progress.step (progress : Progress start inputs connection)
    (late : connection.phase.rank ≤ 3) (step : connection.step? = some next) :
    Progress start inputs next := by
  cases progress with
  | goesOn upgrading =>
    have early := upgrading.rank.1
    omega
  | succeeded upgraded =>
    obtain ⟨items, advances⟩ := advances_of_step? step
    exact .succeeded (upgraded.step advances late) ((rank_le_of_step step).trans late)
  | failed failed ended =>
    cases eq_of_step_ended ended step
    exact .failed
      ⟨failed.untouched.congr rfl rfl rfl rfl, failed.state, failed.failure, failed.reason⟩ ended

theorem Progress.run (progress : Progress start inputs connection)
    (late : connection.phase.rank ≤ 3) : Progress start inputs connection.run := by
  fun_induction Connection.run connection with
  | case1 => exact progress
  | case2 connection next step ih =>
    exact ih (progress.step late step) ((rank_le_of_step step).trans late)

/-! ## Waiting -/

/-- With the time alone nothing comes but the failure of the upgrade, once the time is up. -/
structure WaitsUntil (connection : Connection) (deadline : Nat) : Prop where
  idle : ∀ time, connection.now + time < deadline →
    (connection.apply (.advance time)).step? = none
  fails : ∀ time, deadline ≤ connection.now + time →
    (connection.apply (.advance time)).UpgradeFails (.upgrade .timedOut)
  late : ∀ time, deadline ≤ connection.now + time →
    (connection.apply (.advance time)).step? =
      some ((connection.apply (.advance time)).failUpgrade (.upgrade .timedOut))

theorem waitsUntil_of_moves {deadline : Nat} (unable : connection.callers.canRun = false)
    (moves : ∀ time, (connection.apply (.advance time)).advance? =
      if deadline ≤ connection.now + time then
        some ((connection.apply (.advance time)).failUpgrade (.upgrade .timedOut))
      else none)
    (fails : ∀ time, deadline ≤ connection.now + time →
      (connection.apply (.advance time)).UpgradeFails (.upgrade .timedOut)) :
    WaitsUntil connection deadline where
  idle time early := by
    rw [step?, moves, if_neg (Nat.not_le.mpr early)]
    exact if_neg (by rw [Bool.not_eq_true]; exact unable)
  fails := fails
  late time late := by rw [step?, moves, if_pos late]

theorem waitsUntil_of_requesting {deadline : Nat}
    (requesting : connection.phase = .requesting deadline) (idle : connection.step? = none) :
    WaitsUntil connection deadline := by
  obtain ⟨stuck, unable⟩ := stuck_of_idle idle
  rw [advance?, requesting] at stuck
  dsimp only [stepRequesting] at stuck
  split at stuck
  · cases stuck
  · next going =>
    rw [Bool.not_eq_true] at going
    split at stuck
    · cases stuck
    · next request composed =>
      split at stuck
      · cases stuck
      · cases stuck
      · next stalled =>
        refine waitsUntil_of_moves unable (fun time => ?_) fun time late =>
          .unsentInTime requesting going stalled late
        simp only [advance?, apply, requesting, stepRequesting, going, composed, stalled]
        rfl

theorem waitsUntil_of_awaitingHead {request : UpgradeRequest} {deadline : Nat}
    {reader : Http.HeadReader} (waiting : connection.phase = .awaitingHead request deadline reader)
    (idle : connection.step? = none) :
    WaitsUntil connection deadline ∧ connection.stream.inbox = [] := by
  obtain ⟨stuck, unable⟩ := stuck_of_idle idle
  obtain ⟨going, empty, openEnded, -⟩ := waits_of_stuck_head waiting stuck
  refine ⟨waitsUntil_of_moves unable (fun time => ?_) fun time late =>
    .unansweredInTime waiting going empty openEnded late, empty⟩
  simp only [advance?, apply, waiting, stepAwaitingHead, going, empty, openEnded]
  rfl

/-! ## What an input does to the upgrade -/

theorem phase_apply (connection : Connection) (input : Input) (opened : connection.phase.rank ≤ 5) :
    (connection.apply input).phase = connection.phase := by
  have learns := learns_apply connection input
  generalize connection.phase = before at learns opened
  generalize (connection.apply input).phase = after at learns
  cases learns with
  | nothing => rfl
  | socket | secure => simp [Phase.rank] at opened

theorem cancelled_apply (input : Input) (cancelled : connection.cancelled = true) :
    (connection.apply input).cancelled = true := by
  cases input with
  | cancel => rfl
  | socket outcome | secure outcome =>
    dsimp only [apply]
    split <;> exact cancelled
  | _ => exact cancelled

theorem Untouched.apply (untouched : connection.Untouched) (input : Input) :
    (connection.apply input).Untouched := by
  obtain ⟨_, _, _, _, _, same⟩ := exists_apply_eq connection input
  rw [same]
  exact untouched.congr rfl rfl rfl rfl

theorem Upgrading.apply (upgrading : Upgrading start connection) (input : Input) :
    Upgrading start (connection.apply input) := by
  refine ⟨upgrading.1.apply input, ?_⟩
  rw [phase_apply connection input upgrading.rank.2, written_apply]
  exact upgrading.2

theorem Upgraded.apply (upgraded : Upgraded start inputs connection) (input : Input) :
    Upgraded start (inputs ++ [input]) (connection.apply input) := by
  have told (held : (connection.apply input).callers.socketHeld = true) :=
    upgraded.told (socketHeld_of_apply held)
  rw [← items_apply connection input] at told
  refine ⟨?_, ?_, told⟩
  · obtain ⟨_, _, _, _, _, same⟩ := exists_apply_eq connection input
    rw [same]
    exact upgraded.agreed.append [input]
  · obtain ⟨_, _, _, _, _, same⟩ := exists_apply_eq connection input
    rw [same]
    exact upgraded.connected

theorem Failed.apply (failed : Failed start inputs connection) (input : Input) :
    Failed start (inputs ++ [input]) (connection.apply input) where
  untouched := failed.untouched.apply input
  state := (state_apply ..).trans failed.state
  failure := by
    intro held
    rw [items_apply]
    exact failed.failure (socketHeld_of_apply held)
  reason := by
    rw [written_apply]
    rcases failed.reason with unsent | cancelled | hopeless
    · exact .inl unsent
    · exact .inr (.inl (cancelled_apply input cancelled))
    · exact .inr (.inr (hopeless.append [input]))

/-- An input leaves the upgrade as it is, as long as it leaves it the time it needs. -/
theorem Progress.apply (progress : Progress start inputs connection) (input : Input)
    (leaves : Upgrading start connection → elapsed inputs < start.options.upgradeTimeout →
      elapsed (inputs ++ [input]) < start.options.upgradeTimeout) :
    Progress start (inputs ++ [input]) (connection.apply input) := by
  have phase := phase_apply connection input progress.opened
  cases progress with
  | goesOn upgrading inTime => exact .goesOn (upgrading.apply input) (leaves upgrading inTime)
  | succeeded upgraded late =>
    refine .succeeded (upgraded.apply input) ?_
    rw [phase]
    exact late
  | failed failed ended => exact .failed (failed.apply input) (phase.trans ended)

/-- While there is nothing left to do, the time that passes changes nothing until it is up, and then
the upgrade fails. -/
theorem Upgrading.wait (upgrading : Upgrading (attach url options nonce keys) connection)
    (reaches : Reaches (attach url options nonce keys) inputs connection)
    (waits : WaitsUntil connection options.upgradeTimeout) (time : Nat) :
    Progress (attach url options nonce keys) (inputs ++ [.advance time])
      (connection.apply (.advance time)).run := by
  have now : connection.now + time = elapsed (inputs ++ [.advance time]) :=
    (reaches.apply (.advance time)).now_eq.trans (Nat.zero_add _)
  have waiting := upgrading.apply (.advance time)
  -- The connection was idle, so the deadline is the only thing that the time can bring about.
  by_cases late : options.upgradeTimeout ≤ connection.now + time
  · rw [run_of_step (waits.late time late)]
    have failed := (waits.fails time late).failed waiting (reaches.apply (.advance time))
    exact Progress.run (.failed failed rfl) (Nat.zero_le 3)
  · rw [run_of_idle (waits.idle time (Nat.not_le.mp late))]
    rw [now, Nat.not_le] at late
    exact .goesOn waiting late

theorem Progress.wait (progress : Progress (attach url options nonce keys) inputs connection)
    (reaches : Reaches (attach url options nonce keys) inputs connection)
    (idle : connection.step? = none) (time : Nat) :
    Progress (attach url options nonce keys) (inputs ++ [.advance time])
      (connection.apply (.advance time)).run := by
  have afterwards (late : connection.phase.rank ≤ 3) :
      Progress (attach url options nonce keys) (inputs ++ [.advance time])
        (connection.apply (.advance time)).run := by
    refine Progress.run (progress.apply _ fun upgrading _ => ?_) late
    have early := upgrading.rank.1
    omega
  cases progress with
  | goesOn upgrading =>
    rcases upgrading.phase_cases with ⟨phase, -⟩ | ⟨request, reader, phase, -⟩
    · exact upgrading.wait reaches (waitsUntil_of_requesting phase idle) time
    · exact upgrading.wait reaches (waitsUntil_of_awaitingHead phase idle).1 time
  | succeeded upgraded late => exact afterwards late
  | failed failed ended =>
    refine afterwards ?_
    rw [ended]
    exact Nat.zero_le 3

/-! ## Timely runs -/

theorem untouched_attach (url : Url) (options : Options) (nonce : Bytes) (keys : Nat → MaskKey) :
    (attach url options nonce keys).Untouched := by
  have states : (attach url options nonce keys).states =
      #[.initialized, .streamConnected, .upgrading] := rfl
  have items : (attach url options nonce keys).items =
      #[entered .initialized, entered .streamConnected, entered .upgrading] := rfl
  refine ⟨rfl, ?_, ?_, ?_, ?_⟩
  · rw [sentFrames, written_attach]
    rfl
  · rw [states]
    simp
  · rw [states]
    simp
  · rw [items]
    decide

/-- The invariant holds in all timely runs with valid options. -/
theorem Timely.progress (valid : options.validate = .ok ())
    (timely : Timely (attach url options nonce keys) inputs connection) :
    Progress (attach url options nonce keys) inputs connection := by
  induction timely with
  | start =>
    exact .goesOn ⟨untouched_attach .., Nat.zero_add _, written_attach ..⟩
      (Options.validate_eq_ok_iff.mp valid).upgradeTimeout_pos
  | step timely step ih =>
    cases ih with
    | goesOn upgrading inTime =>
      obtain ⟨items, advances⟩ := advances_of_step? step
      exact upgrading.step timely inTime advances
    | succeeded upgraded late => exact Progress.step (.succeeded upgraded late) late step
    | failed failed ended =>
      refine Progress.step (.failed failed ended) ?_ step
      rw [ended]
      exact Nat.zero_le 3
  | @apply inputs connection timely input timeless ih =>
    refine ih.apply input fun _ inTime => ?_
    rw [elapsed_append, show elapsed [input] = input.time from Nat.add_zero _, timeless]
    exact inTime
  | wait timely idle time ih => exact ih.wait timely.reaches idle time

/-! ## Connected exactly after a verified upgrade -/

/-- The subprotocol stays once frames have begun to go both ways. -/
theorem Reaches.subprotocol_eq {more : List Input} {later : Connection}
    (reaches : Reaches connection more later) (late : connection.phase.rank ≤ 3) :
    later.subprotocol = connection.subprotocol := by
  suffices later.phase.rank ≤ 3 ∧ later.subprotocol = connection.subprotocol from this.2
  induction reaches with
  | start => exact ⟨late, rfl⟩
  | step reaches step ih =>
    obtain ⟨items, advances⟩ := advances_of_step? step
    obtain ⟨states, passes⟩ := advances.passes ih.1
    exact ⟨(rank_le_of_step step).trans ih.1, passes.subprotocol.trans ih.2⟩
  | @apply more later reaches input ih =>
    refine ⟨?_, ?_⟩
    · rw [phase_apply later input (ih.1.trans (by decide))]
      exact ih.1
    · obtain ⟨_, _, _, _, _, same⟩ := exists_apply_eq later input
      rw [same]
      exact ih.2

/-- The subprotocol that was agreed on is one of those that the options ask for, if they ask for
any. -/
theorem Agreed.asked {subprotocol : Option String}
    (agreed : Agreed (attach url options nonce keys) inputs subprotocol) :
    (options.subprotocols = [] → subprotocol = none) ∧
      (options.subprotocols ≠ [] → ∃ name ∈ options.subprotocols, subprotocol = some name) := by
  obtain ⟨early, moment, request, length, -, -, -, composed, -, -, head, -, verified⟩ := agreed
  have asked := UpgradeRequest.subprotocol_of_verify verified
  rw [UpgradeRequest.subprotocols_of_compose composed] at asked
  exact asked

/-- A head that came in time was accepted, unless the connection was told to stop. -/
theorem Progress.upgraded
    (progress : Progress (attach url options nonce keys) inputs connection)
    (reaches : Reaches (attach url options nonce keys) inputs connection)
    (idle : connection.step? = none) (going : connection.cancelled = false)
    {request : UpgradeRequest} (composed : (attach url options nonce keys).request = .ok request)
    (onWire : .request request ∈ connection.written) {early : List Input}
    (before : early <+: inputs) (inTime : elapsed early < options.upgradeTimeout) {length : Nat}
    {subprotocol : Option String} (accepts : request.Accepts (received early) length subprotocol)
    (small : length ≤ Http.maxHead) :
    Upgraded (attach url options nonce keys) inputs connection ∧
      connection.subprotocol = subprotocol := by
  have whole := accepts_received before accepts
  cases progress with
  | goesOn upgrading =>
    exfalso
    rcases upgrading.phase_cases with ⟨phase, unsent⟩ | ⟨asked, reader, phase, -⟩
    · rw [unsent] at onWire
      simp at onWire
    · obtain ⟨clean, same⟩ := reaches.reading phase
      rw [(waitsUntil_of_awaitingHead phase idle).2, List.append_nil] at same
      have found := whole.1
      rw [← same, clean.missing] at found
      cases found
  | succeeded upgraded late =>
    refine ⟨upgraded, ?_⟩
    obtain ⟨moment, upTo, asked, size, first, -, -, same, -, agreed⟩ := upgraded.agreed
    cases composed.symm.trans same
    exact whole.subprotocol_eq (accepts_received first agreed)
  | failed failed =>
    exfalso
    rcases failed.reason with unsent | cancelled | hopeless
    · rw [unsent] at onWire
      simp at onWire
    · rw [going] at cancelled
      cases cancelled
    · have tooLong := hopeless [] early (by rwa [List.append_nil]) inTime request length subprotocol
        composed accepts
      omega

theorem frameBytes_of_unsent (unsent : connection.sentFrames = []) :
    connection.frameBytes = [] := by
  have none : connection.written.toList.filter (·.frame?.isSome) = [] := by
    rw [List.filter_eq_nil_iff]
    intro written member
    rw [List.filterMap_eq_nil_iff.mp unsent written member]
    exact Bool.false_ne_true
  rw [frameBytes, none]
  rfl

/-- In timely runs a connection is upgraded, gets to be connected, and writes or reports frames only
when a head was accepted before the time for the upgrade was up, and its subprotocol is then the one
that was agreed on for good. It does get connected when such a head, of a size that is allowed,
comes in time behind the request. When it is over without, it was aborted with an error, without a
subprotocol, and nothing but the request was written. -/
theorem Timely.connected_after_agreement (valid : options.validate = .ok ())
    (timely : Timely (attach url options nonce keys) inputs connection) :
    (connection.Untouched ∧ connection.isConnected = false ∨
        Agreed (attach url options nonce keys) inputs connection.subprotocol ∧
          (options.subprotocols = [] → connection.subprotocol = none) ∧
          (options.subprotocols ≠ [] →
            ∃ name ∈ options.subprotocols, connection.subprotocol = some name) ∧
          ∀ more later, Reaches connection more later →
            later.subprotocol = connection.subprotocol) ∧
      (∀ request early length subprotocol,
        (attach url options nonce keys).request = .ok request →
        .request request ∈ connection.written → connection.cancelled = false →
        connection.step? = none → early <+: inputs → elapsed early < options.upgradeTimeout →
        request.Accepts (received early) length subprotocol → length ≤ Http.maxHead →
        .connected ∈ connection.states ∧ connection.subprotocol = subprotocol ∧
          (connection.callers.socketHeld = true → entered .connected ∈ connection.items)) ∧
      (connection.isOver = true → .connected ∉ connection.states →
        connection.state = .aborted ∧ connection.subprotocol = none ∧
          connection.sentFrames = [] ∧ connection.wire = connection.requestBytes ∧
          (connection.callers.socketHeld = true →
            ∃ error, connection.items.toList.getLast? = some (.failure error))) := by
  have progress := timely.progress valid
  have reaches := timely.reaches
  have fits : connection.Fits := reaches.fits (fits_attach ..)
  refine ⟨?_, ?_, fun finished never => ?_⟩
  · cases progress with
    | goesOn upgrading => exact .inl ⟨upgrading.1, fits.not_connected (.inr upgrading.rank.1)⟩
    | succeeded upgraded late =>
      obtain ⟨none, some⟩ := upgraded.agreed.asked
      exact .inr ⟨upgraded.agreed, none, some, fun more later reached =>
        reached.subprotocol_eq late⟩
    | failed failed =>
      refine .inl ⟨failed.untouched, ?_⟩
      rw [isConnected, failed.state]
      rfl
  · intro request early length subprotocol composed onWire going idle before inTime accepts small
    obtain ⟨upgraded, same⟩ :=
      progress.upgraded reaches idle going composed onWire before inTime accepts small
    exact ⟨upgraded.connected, same, upgraded.told⟩
  · cases progress with
    | goesOn upgrading =>
      have early := upgrading.rank.1
      rw [isOver_iff.mp finished] at early
      omega
    | succeeded upgraded => exact absurd upgraded.connected never
    | failed failed =>
      have untouched := failed.untouched
      refine ⟨failed.state, untouched.subprotocol, untouched.frames, ?_, failed.failure⟩
      rw [reaches.wire_eq, frameBytes_of_unsent untouched.frames, List.append_nil]

/-- The request gets out in the last moment, and the server agrees to the second subprotocol. -/
theorem connected_after_agreement_in_last_moment :
    let options : Options := { subprotocols := ["soap", "chat"] }
    let start := attach ⟨"ws", some "localhost", none, "/", none⟩ options (List.replicate 16 0)
      fun _ => ⟨0, 0, 0, 0⟩
    let waited := (start.apply (.setWrites .stalled)).apply (.advance 29999)
    let more := [.setWrites .working, .arrive (agreement.take 34),
      .arrive (Bytes.ofString "Sec-WebSocket-Protocol: chat\r\n" ++ agreement.drop 34)]
    let inputs := [.setWrites .stalled, .advance 29999] ++ more
    let upgraded := (more.foldl apply waited).stepUpTo 5
    options.validate = .ok () ∧ Timely start inputs upgraded ∧ upgraded.isConnected = true ∧
      Agreed start inputs (some "chat") ∧
      (∃ request length, start.request = .ok request ∧ .request request ∈ upgraded.written ∧
        request.Accepts (received inputs) length (some "chat") ∧ length ≤ Http.maxHead) ∧
      .connected ∈ upgraded.states := by
  intro options start waited more inputs upgraded
  have valid : options.validate = .ok () := by
    decide +kernel
  obtain ⟨stalled, still, idle, going⟩ :
      (start.apply (.setWrites .stalled)).step?.isNone = true ∧ waited.step?.isNone = true ∧
        upgraded.step?.isNone = true ∧ upgraded.cancelled = false := by
    decide +kernel
  obtain ⟨connected, chosen, onWire, short⟩ :
      upgraded.isConnected = true ∧ upgraded.subprotocol = some "chat" ∧
        start.request.toOption.all (fun request => .request request ∈ upgraded.written) = true ∧
        (received inputs).length ≤ Http.maxHead := by
    decide +kernel
  rw [Option.isNone_iff_eq_none] at stalled still idle
  have timely : Timely start inputs upgraded := by
    have waiting := (Timely.start.apply (.setWrites .stalled) rfl).wait stalled 29999
    rw [show (start.apply (.setWrites .stalled)).apply (.advance 29999) = waited from rfl,
      run_of_idle still] at waiting
    refine (waiting.foldl_apply more ?_).stepUpTo 5
    simp [more, Input.time]
  obtain ⟨only, becomes, -⟩ := Timely.connected_after_agreement valid timely
  rw [chosen] at only
  obtain ⟨untouched, -⟩ | ⟨agreed, -⟩ := only
  · rw [untouched.subprotocol] at chosen
    cases chosen
  · refine ⟨valid, timely, connected, agreed, ?_⟩
    obtain ⟨early, moment, request, length, before, -, -, composed, -, accepts⟩ := agreed
    have whole := accepts_received before accepts
    have small := (Http.bounds_of_headLength? whole.1).2.trans short
    have inTime : elapsed inputs < options.upgradeTimeout := by
      decide +kernel
    rw [composed] at onWire
    simp only [Except.toOption, Option.all_some, decide_eq_true_eq] at onWire
    refine ⟨⟨request, length, composed, onWire, whole, small⟩, ?_⟩
    exact (becomes request inputs length (some "chat") composed onWire going idle List.prefix_rfl
      inTime whole small).1

end Connection

end WebSocket
