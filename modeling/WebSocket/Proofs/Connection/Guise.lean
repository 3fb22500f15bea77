import WebSocket.Proofs.Connection.Arrivals

/-! # Connections in a guise

What a connection does depends neither on how its calls are numbered, nor on the answers that were
given before, nor on what stands on the event stream, nor on which of its handles the users hold as
long as they hold one. A guise changes these things and nothing else. A connection in a guise goes
on as it does without (`step?_wear`, `play_wear`), and two runs that differ in such things only are
compared by finding the guise in which the one is the other.
-/

namespace WebSocket

/-- A change of what does not concern a connection. -/
structure Guise where
  /-- The number of a call. -/
  number : Nat → Nat := id
  answers : Array Answer → Array Answer := id
  /-- Whether the handle that reads the events is held. -/
  held : Bool → Bool := id
  items : Array StreamItem → Array StreamItem := id
  held_false : held false = false
  items_emit : ∀ isHeld told item,
    (if held isHeld then (items told).push item else items told) =
      items (if isHeld then told.push item else told)

namespace Guise

variable (guise : Guise)

def command (command : Command) : Command :=
  { command with id := guise.number command.id }

def answer (answer : Answer) : Answer :=
  { answer with id := guise.number answer.id }

def job : Job → Job
  | .command id frames => .command (guise.number id) frames
  | .close reason id => .close reason (id.map guise.number)
  | .keepAlive => .keepAlive
  | .pong frame => .pong frame
  | .echo frame => .echo frame
  | .refusal cause => .refusal cause

def phase : Phase → Phase
  | .writing job => .writing (guise.job job)
  | phase => phase

def callers (callers : Callers) : Callers :=
  { callers with
    socketHeld := guise.held callers.socketHeld
    queue := callers.queue.map guise.command
    waiting := callers.waiting.map guise.command
    nextId := guise.number callers.nextId
    answers := guise.answers callers.answers }

variable {guise} in
theorem order?_job (job : Job) : (guise.job job).order? = job.order?.map guise.command := by
  cases job with
  | close reason id => cases id <;> rfl
  | command | keepAlive | pong | echo | refusal => rfl

variable {guise} in
theorem job_of_fixed {job : Job}
    (fixed : ∀ command ∈ job.order?.toList, guise.command command = command) :
    guise.job job = job := by
  cases job with
  | command id frames =>
    have same : guise.number id = id := congrArg Command.id (fixed _ (List.mem_singleton_self _))
    rw [Guise.job, same]
  | close reason id =>
    cases id with
    | none => rfl
    | some id =>
      have same : guise.number id = id :=
        congrArg Command.id (fixed _ (List.mem_singleton_self _))
      rw [Guise.job, Option.map_some, same]
  | keepAlive | pong | echo | refusal => rfl

/-! ## What may wear a guise -/

/-- From here on the guise numbers calls in their order, keeps the answers that are still to come
and does not hide whether anyone is left. -/
structure Suits (callers : Callers) : Prop where
  used : (guise.held callers.socketHeld || callers.senderHeld) =
    (callers.socketHeld || callers.senderHeld)
  number : ∀ count, guise.number (callers.nextId + count) = guise.number callers.nextId + count
  answers : ∀ more, guise.answers (callers.answers ++ more) =
    guise.answers callers.answers ++ more.map guise.answer

variable {guise} {callers after : Callers}

/-- What callers do later leaves a guise that suits them suitable, as long as its view of the
handles is right. -/
theorem Suits.later (suits : guise.Suits callers)
    (used : (guise.held after.socketHeld || after.senderHeld) =
      (after.socketHeld || after.senderHeld))
    (calls : Nat) (nextId : after.nextId = callers.nextId + calls) (more : Array Answer)
    (answers : after.answers = callers.answers ++ more) : guise.Suits after where
  used := used
  number count := by rw [nextId, Nat.add_assoc, suits.number, suits.number, Nat.add_assoc]
  answers later := by
    rw [answers, Array.append_assoc, suits.answers, suits.answers, Array.map_append,
      Array.append_assoc]

theorem Suits.push (suits : guise.Suits callers) (answer : Answer) :
    guise.answers (callers.answers.push answer) =
      (guise.answers callers.answers).push (guise.answer answer) := by
  simpa using suits.answers #[answer]

theorem Suits.succ (suits : guise.Suits callers) :
    guise.number (callers.nextId + 1) = guise.number callers.nextId + 1 :=
  suits.number 1

/-! ## Callers in a guise -/

theorem areGone_callers (suits : guise.Suits callers) :
    (guise.callers callers).areGone = callers.areGone := by
  have used := suits.used
  simp only [Callers.areGone, Guise.callers, ← Bool.not_or, used, List.isEmpty_map]
  rfl

theorem queue_callers (guise : Guise) (callers : Callers) :
    (guise.callers callers).queue = callers.queue.map guise.command := rfl

theorem canRun_callers (guise : Guise) (callers : Callers) :
    (guise.callers callers).canRun = callers.canRun := by
  simp only [Callers.canRun, Guise.callers, List.isEmpty_map, List.length_map]
  rfl

theorem run_callers (guise : Guise) (callers : Callers) :
    (guise.callers callers).run = guise.callers callers.run := by
  simp only [Callers.run, Guise.callers, List.length_map, List.map_append, List.map_take,
    List.map_drop]

theorem answer_callers (suits : guise.Suits callers) (id : Nat) (error : Option Error) :
    (guise.callers callers).answer (guise.number id) error =
      guise.callers (callers.answer id error) := by
  simp only [Callers.answer, Guise.callers, suits.push]
  rfl

theorem Suits.answer (suits : guise.Suits callers) (id : Nat) (error : Option Error) :
    guise.Suits (callers.answer id error) :=
  suits.later suits.used 0 rfl #[⟨id, error⟩] rfl

theorem release_callers (suits : guise.Suits callers) :
    (guise.callers callers).release = guise.callers callers.release := by
  have answers (commands : List Command) : (commands.map guise.command).map Command.notTaken =
      (commands.map Command.notTaken).map guise.answer := by
    rw [List.map_map, List.map_map]
    rfl
  simp only [Callers.release_eq, Guise.callers, suits.answers, ← List.map_append, answers,
    List.length_map, List.map_nil, List.map_toArray]

theorem call_callers (suits : guise.Suits callers) (call : Call) (connected : Bool) :
    (guise.callers callers).call call connected =
      guise.callers (callers.call call connected) := by
  unfold Callers.call
  cases call.check connected with
  | error cause => simp only [Guise.callers, suits.push, suits.succ]; rfl
  | ok order =>
    cases order with
    | none => simp only [Guise.callers, suits.push, suits.succ]; rfl
    | some order =>
      dsimp only [Guise.callers]
      rw [List.isEmpty_map, List.length_map]
      split
      · simp [Guise.command, suits.succ]
      · simp [Guise.command, suits.succ]

end Guise

/-- A call leaves the handles as they are. -/
theorem Callers.held_call (callers : Callers) (call : Call) (connected : Bool) :
    (callers.call call connected).socketHeld = callers.socketHeld ∧
      (callers.call call connected).senderHeld = callers.senderHeld := by
  unfold Callers.call
  cases call.check connected with
  | error cause => exact ⟨rfl, rfl⟩
  | ok order =>
    cases order with
    | none => exact ⟨rfl, rfl⟩
    | some order =>
      dsimp only
      split <;> exact ⟨rfl, rfl⟩

namespace Connection

variable {connection next : Connection} {guise : Guise}

/-- A connection in a guise. -/
def wear (connection : Connection) (guise : Guise) : Connection :=
  { connection with
    phase := guise.phase connection.phase
    callers := guise.callers connection.callers
    items := guise.items connection.items }

theorem outstanding_wear (connection : Connection) (guise : Guise) :
    (connection.wear guise).outstanding = connection.outstanding.map guise.command := by
  have underWay : (connection.wear guise).underWay = connection.underWay.map guise.command := by
    unfold underWay wear
    cases connection.phase with
    | writing job =>
      dsimp only [Guise.phase]
      rw [Guise.order?_job, Option.toList_map]
    | _ => rfl
  simp only [outstanding, underWay, List.map_append]
  rfl

/-- What is seen of a connection in a guise. -/
theorem seen_wear (connection : Connection) (guise : Guise) :
    (connection.wear guise).seen =
      { connection.seen with
        items := guise.items connection.items
        pending := connection.pending.map guise.number
        answers := guise.answers connection.callers.answers } := by
  have isOver : (connection.wear guise).isOver = connection.isOver := by
    unfold isOver wear
    cases connection.phase <;> rfl
  have pending : (connection.wear guise).pending = connection.pending.map guise.number := by
    rw [pending_eq, pending_eq, outstanding_wear, List.map_map, List.map_map]
    rfl
  simp only [seen, isOver, pending]
  rfl

/-- A connection in a guise that leaves the orders without an answer as they are. -/
theorem wear_of_fixed {guise : Guise}
    (fixed : ∀ command ∈ connection.outstanding, guise.command command = command) :
    connection.wear guise =
      { connection with
        callers := { connection.callers with
          socketHeld := guise.held connection.callers.socketHeld
          nextId := guise.number connection.callers.nextId
          answers := guise.answers connection.callers.answers }
        items := guise.items connection.items } := by
  simp only [outstanding, List.forall_mem_append] at fixed
  obtain ⟨underWay, queue, waiting⟩ := fixed
  have phase : guise.phase connection.phase = connection.phase := by
    unfold Connection.underWay at underWay
    cases phase : connection.phase with
    | writing job =>
      rw [phase] at underWay
      exact congrArg Phase.writing (Guise.job_of_fixed underWay)
    | _ => rfl
  have keeps {commands : List Command}
      (fixed : ∀ command ∈ commands, guise.command command = command) :
      commands.map guise.command = commands :=
    (List.map_congr_left fixed).trans (List.map_id commands)
  simp only [wear, Guise.callers, phase, keeps queue, keeps waiting]

/-! ## Parts of a step -/

section wear

variable (connection : Connection) (guise : Guise)

@[simp] theorem phase_wear : (connection.wear guise).phase = guise.phase connection.phase := rfl

@[simp] theorem callers_wear :
    (connection.wear guise).callers = guise.callers connection.callers := rfl

@[simp] theorem url_wear : (connection.wear guise).url = connection.url := rfl

@[simp] theorem options_wear : (connection.wear guise).options = connection.options := rfl

@[simp] theorem nonce_wear : (connection.wear guise).nonce = connection.nonce := rfl

@[simp] theorem now_wear : (connection.wear guise).now = connection.now := rfl

@[simp] theorem cancelled_wear : (connection.wear guise).cancelled = connection.cancelled := rfl

@[simp] theorem stream_wear : (connection.wear guise).stream = connection.stream := rfl

@[simp] theorem assembly_wear : (connection.wear guise).assembly = connection.assembly := rfl

@[simp] theorem keepAlive_wear : (connection.wear guise).keepAlive = connection.keepAlive := rfl

@[simp] theorem decodeNext_wear : (connection.wear guise).decodeNext = connection.decodeNext := rfl

@[simp] theorem afterDecoding_wear (decoded : Decoded) :
    (connection.wear guise).afterDecoding decoded =
      (connection.afterDecoding decoded).wear guise := rfl

theorem emit_wear (item : StreamItem) :
    (connection.wear guise).emit item = (connection.emit item).wear guise :=
  congrArg (fun items => { connection.wear guise with items }) (guise.items_emit ..)

theorem report_wear (status : ConnectionStatus) :
    (connection.wear guise).report status = (connection.report status).wear guise :=
  emit_wear ..

theorem reportFrame_wear (status : ConnectionStatus) (frame : Frame) :
    (connection.wear guise).reportFrame status frame =
      (connection.reportFrame status frame).wear guise :=
  emit_wear ..

theorem enter_wear (state : ConnectionState) :
    (connection.wear guise).enter state = (connection.enter state).wear guise :=
  report_wear { connection with state, states := connection.states.push state } guise _

theorem shutDown_wear : (connection.wear guise).shutDown = connection.shutDown.wear guise := rfl

theorem startUpgrade_wear (opened : ConnectionState) :
    (connection.wear guise).startUpgrade opened = (connection.startUpgrade opened).wear guise := by
  simp only [startUpgrade, enter_wear]
  rfl

theorem beginExchange_wear (subprotocol : Option String) (rest : Bytes) :
    (connection.wear guise).beginExchange subprotocol rest =
      (connection.beginExchange subprotocol rest).wear guise := by
  have begun : ({ (connection.wear guise).withInbox rest with subprotocol } : Connection) =
      ({ connection.withInbox rest with subprotocol } : Connection).wear guise := rfl
  simp only [beginExchange, begun, enter_wear]
  rfl

theorem framesOf_wear (job : Job) :
    (connection.wear guise).framesOf (guise.job job) = connection.framesOf job := by
  cases job <;> rfl

theorem deliver_wear (frame : Frame) :
    (connection.wear guise).deliver frame = (connection.deliver frame).wear guise := by
  unfold deliver
  rw [options_wear]
  simp only [reportFrame_wear, enter_wear]
  split
  · rfl
  · rfl
  · rfl
  · rfl
  · split <;> rfl

theorem receive_wear (frame : Frame) :
    (connection.wear guise).receive frame = (connection.receive frame).wear guise := by
  unfold receive
  rw [assembly_wear]
  split
  · rfl
  · split
    · rfl
    · rfl
    · next message after _ =>
      exact deliver_wear { connection with assembly := after } guise message

theorem keepPart?_wear :
    (connection.wear guise).keepPart? = connection.keepPart?.map (·.wear guise) := by
  unfold keepPart?
  rw [decodeNext_wear, stream_wear]
  split <;> rfl

theorem obey_wear (command : Command) :
    (connection.wear guise).obey (guise.command command) =
      (connection.obey command).wear guise := by
  unfold obey
  simp only [enter_wear, Guise.command]
  cases command.order <;> rfl

end wear

section suits

variable (suits : guise.Suits connection.callers)
include suits

theorem answer_wear (id : Nat) (error : Option Error) :
    (connection.wear guise).answer (guise.number id) error =
      (connection.answer id error).wear guise := by
  simp only [answer, callers_wear, Guise.answer_callers suits]
  rfl

theorem fail_wear (state : ConnectionState) (error : Error) :
    (connection.wear guise).fail state error = (connection.fail state error).wear guise := by
  simp only [fail, enter_wear, emit_wear]
  exact congrArg
    (fun callers => { ((connection.enter state).emit (.failure error)).wear guise with
      phase := .ended, callers })
    (Guise.release_callers suits)

theorem finishClosing_wear :
    (connection.wear guise).finishClosing = connection.finishClosing.wear guise := by
  simp only [finishClosing, finish, shutDown_wear, enter_wear]
  exact congrArg
    (fun callers => { (connection.shutDown.enter .disconnected).wear guise with
      phase := .ended, callers })
    (Guise.release_callers suits)

theorem failUpgrade_wear (error : Error) :
    (connection.wear guise).failUpgrade error = (connection.failUpgrade error).wear guise := by
  have failing (before : Connection) (same : before.callers = connection.callers) :
      (before.wear guise).shutDown.fail .aborted error =
        (before.shutDown.fail .aborted error).wear guise :=
    @fail_wear before.shutDown guise (same ▸ suits) ..
  cases error with
  | upgrade cause =>
    cases cause with
    | timedOut =>
      simp only [failUpgrade, report_wear]
      exact failing (connection.report .upgradeTimedOut) rfl
    | failed | status | notSent | upgradeHeader | connectionHeader | acceptHeader | subprotocol =>
      simp only [failUpgrade, report_wear]
      exact failing (connection.report .upgradeFailed) rfl
  | setup | transport | violation | call => exact failing connection rfl

theorem settle_wear (job : Job) (error : Option TransportError) :
    (connection.wear guise).settle (guise.job job) error =
      (connection.settle job error).wear guise := by
  have reported (status : ConnectionStatus) : guise.Suits (connection.report status).callers :=
    suits
  cases job with
  | command id frames =>
    simp only [Guise.job, settle, report_wear, answer_wear (reported _)]
    rfl
  | keepAlive | pong =>
    simp only [Guise.job, settle, report_wear]
    rfl
  | close reason id =>
    cases id with
    | none =>
      cases error with
      | none => rfl
      | some cause =>
        simp only [Guise.job, settle, Option.map_none, Option.elim_none, report_wear]
        exact @finishClosing_wear (connection.report .sendFailed) guise suits
    | some id =>
      cases error with
      | none =>
        exact congrArg
          (fun answered : Connection => { answered with
            phase := .awaitingClose (connection.now + connection.options.closeTimeout) })
          (answer_wear suits id none)
      | some cause =>
        let error : Option Error := some (.transport cause)
        calc (connection.wear guise).settle (.close reason (some (guise.number id))) (some cause)
          _ = (((connection.wear guise).report .sendFailed).answer
                (guise.number id) error).finishClosing := rfl
          _ = (((connection.report .sendFailed).answer id error).wear guise).finishClosing := by
            rw [report_wear, answer_wear (reported _)]
          _ = ((connection.report .sendFailed).answer id error).finishClosing.wear guise :=
            finishClosing_wear ((reported .sendFailed).answer id error)
  | echo => exact finishClosing_wear suits
  | refusal cause => exact @fail_wear connection.shutDown guise suits ..

/-! ## Steps -/

theorem stepDialing_wear (secure : Bool) (deadline : Nat)
    (outcome : Option (Except TransportError Unit)) :
    (connection.wear guise).stepDialing secure deadline outcome =
      (connection.stepDialing secure deadline outcome).map (·.wear guise) := by
  unfold stepDialing
  simp only [fail_wear suits, enter_wear, startUpgrade_wear, cancelled_wear, now_wear, url_wear]
  split
  · rfl
  · split
    · rfl
    · split
      · split
        · exact congrArg some (@fail_wear
            ((connection.enter .socketConnected).enter .connectingStream) guise suits _ _)
        · rfl
      · rfl
    · split <;> rfl

theorem stepSecuring_wear (outcome : Option (Except TransportError Unit)) :
    (connection.wear guise).stepSecuring outcome =
      (connection.stepSecuring outcome).map (·.wear guise) := by
  unfold stepSecuring
  simp only [fail_wear suits, startUpgrade_wear]
  rw [cancelled_wear]
  split
  · rfl
  · rcases outcome with _ | _ | _ <;> rfl

theorem stepRequesting_wear (deadline : Nat) :
    (connection.wear guise).stepRequesting deadline =
      (connection.stepRequesting deadline).map (·.wear guise) := by
  unfold stepRequesting
  simp only [failUpgrade_wear suits]
  rw [cancelled_wear, now_wear, url_wear, options_wear, nonce_wear, stream_wear]
  split
  · rfl
  · split
    · rfl
    · split
      · rfl
      · rfl
      · split <;> rfl

theorem stepAwaitingHead_wear (request : UpgradeRequest) (deadline : Nat)
    (reader : Http.HeadReader) :
    (connection.wear guise).stepAwaitingHead request deadline reader =
      (connection.stepAwaitingHead request deadline reader).map (·.wear guise) := by
  unfold stepAwaitingHead
  simp only [failUpgrade_wear suits, beginExchange_wear]
  rw [cancelled_wear, now_wear, stream_wear]
  split
  · rfl
  · split
    · split
      · rfl
      · rfl
      · split <;> rfl
    · split
      · rfl
      · rfl
      · rfl
      · rfl
      · split <;> rfl

theorem stepReading_wear :
    (connection.wear guise).stepReading = connection.stepReading.map (·.wear guise) := by
  unfold stepReading
  simp only [fail_wear suits]
  rw [decodeNext_wear, stream_wear]
  split
  · exact congrArg some (receive_wear (connection.afterDecoding connection.decodeNext) guise _)
  · rfl
  · rfl
  · rfl
  · exact keepPart?_wear connection guise

theorem stepConnected_wear :
    (connection.wear guise).stepConnected = connection.stepConnected.map (·.wear guise) := by
  unfold stepConnected
  rw [callers_wear, Guise.areGone_callers suits, Guise.queue_callers, enter_wear, shutDown_wear,
    @fail_wear connection.shutDown guise suits, stepReading_wear suits, cancelled_wear,
    keepAlive_wear, now_wear]
  split
  · rfl
  · cases connection.callers.queue with
    | cons command queue =>
      exact congrArg some
        (obey_wear { connection with callers := { connection.callers with queue } } guise command)
    | nil =>
      rw [List.map_nil]
      dsimp only
      split
      · rfl
      · split
        · split <;> rfl
        · rfl

theorem stepWriting_wear (job : Job) :
    (connection.wear guise).stepWriting (guise.job job) =
      (connection.stepWriting job).map (·.wear guise) := by
  unfold stepWriting
  rw [stream_wear, framesOf_wear]
  split
  · exact congrArg some
      (@settle_wear (connection.record (connection.framesOf job)) guise suits job none)
  · exact congrArg some (settle_wear suits job _)
  · rfl

theorem stepAwaitingClose_wear (deadline : Nat) :
    (connection.wear guise).stepAwaitingClose deadline =
      (connection.stepAwaitingClose deadline).map (·.wear guise) := by
  have finishing (before : Connection) (same : before.callers = connection.callers) :
      (before.wear guise).finishClosing = before.finishClosing.wear guise :=
    finishClosing_wear (same ▸ suits)
  unfold stepAwaitingClose
  rw [decodeNext_wear, stream_wear, now_wear, afterDecoding_wear]
  simp only [reportFrame_wear, keepPart?_wear]
  split
  · next frame _ =>
    split
    · exact congrArg some (finishing
        ((connection.afterDecoding connection.decodeNext).reportFrame .closeReceived frame) rfl)
    · rfl
  · exact congrArg some (finishing (connection.afterDecoding connection.decodeNext) rfl)
  · split
    · exact congrArg some (finishing connection rfl)
    · rfl

theorem advance?_wear :
    (connection.wear guise).advance? = connection.advance?.map (·.wear guise) := by
  unfold advance?
  rw [phase_wear]
  cases connection.phase with
  | dialing => exact stepDialing_wear suits ..
  | securing => exact stepSecuring_wear suits ..
  | requesting => exact stepRequesting_wear suits ..
  | awaitingHead => exact stepAwaitingHead_wear suits ..
  | connected => exact stepConnected_wear suits
  | writing => exact stepWriting_wear suits ..
  | awaitingClose => exact stepAwaitingClose_wear suits ..
  | ended => rfl

/-- A connection in a guise does what it does without. -/
theorem step?_wear :
    (connection.wear guise).step? = connection.step?.map (·.wear guise) := by
  unfold step?
  rw [advance?_wear suits]
  cases connection.advance? with
  | some next => rfl
  | none =>
    rw [Option.map_none, callers_wear, Guise.canRun_callers, Guise.run_callers]
    dsimp only
    split <;> rfl

end suits

/-! ## Runs -/

theorem senderHeld_settle (connection : Connection) (job : Job) (error : Option TransportError) :
    (connection.settle job error).callers.senderHeld = connection.callers.senderHeld := by
  rw [callers_settle]
  dsimp only
  cases job.order? <;> split <;> simp [Callers.release_eq, Callers.answer]

/-- Only its users change which handles they hold. -/
theorem Advances.senderHeld_eq {items : List StreamItem}
    (advances : connection.Advances items next) :
    next.callers.senderHeld = connection.callers.senderHeld := by
  cases advances with
  | writes => exact senderHeld_settle ..
  | failsToWrite => exact senderHeld_settle ..
  | beginsSecuring | opensPlain | opensSecure | requests | readsHead | upgrades | takesSend
  | takesClose | abandoned | pings | refuses | collects | answersPing | hearsPong | peerCloses
  | receives | keepsPart | dropsFrame | usersRun => rfl
  | _ => simp [Callers.release_eq]

theorem suits_of_step (suits : guise.Suits connection.callers)
    (step : connection.step? = some next) : guise.Suits next.callers := by
  obtain ⟨items, advances⟩ := advances_of_step? step
  obtain ⟨dropped, balances⟩ := advances.balances
  refine suits.later ?_ 0 balances.nextId
    (connection.attempted.filterMap Attempt.answer? ++ dropped.map Command.notTaken).toArray ?_
  · rw [advances.tells.held, advances.senderHeld_eq]
    exact suits.used
  · rw [← Array.toList_inj, balances.answers]
    simp

theorem run_wear (suits : guise.Suits connection.callers) :
    (connection.wear guise).run = connection.run.wear guise ∧
      guise.Suits connection.run.callers := by
  fun_induction run connection with
  | case1 connection idle =>
    refine ⟨run_of_idle ?_, suits⟩
    rw [step?_wear suits, idle, Option.map_none]
  | case2 connection next step ih =>
    -- The step is the same in the guise, which still suits the callers that are left after it.
    have worn : (connection.wear guise).step? = some (next.wear guise) := by
      rw [step?_wear suits, step, Option.map_some]
    rw [run_of_step worn]
    exact ih (suits_of_step suits step)

/-- Whether an input leaves a guise suitable: one that changes its view of the handles must not lose
the sender. -/
def Input.Keeps (guise : Guise) : Input → Prop
  | .dropSender => guise.held = id
  | _ => True

theorem suits_apply (suits : guise.Suits connection.callers) {input : Input}
    (keeps : input.Keeps guise) : guise.Suits (connection.apply input).callers := by
  have adds := adds_apply connection input
  refine suits.later ?_ _ adds.nextId
    ((connection.made? input).bind (·.answer? connection.callers.nextId)).toList.toArray ?_
  · have used := suits.used
    cases input with
    | call call =>
      obtain ⟨socket, sender⟩ := connection.callers.held_call call connection.isConnected
      simp only [apply, socket, sender, used]
    | takeSender =>
      cases held : connection.callers.socketHeld <;> simp_all [apply, Callers.takeSender]
    | dropSender =>
      have keeps : guise.held = id := keeps
      simp [apply, keeps]
    | dropSocket => simp [apply, guise.held_false]
    | socket outcome | secure outcome =>
      dsimp only [apply]
      split <;> exact used
    | arrive | finish | setWrites | advance | cancel => exact used
  · rw [← Array.toList_inj, adds.answers]
    simp

theorem apply_wear (suits : guise.Suits connection.callers) (input : Input) :
    (connection.wear guise).apply input = (connection.apply input).wear guise := by
  cases input with
  | call call =>
    exact congrArg (fun callers => { connection.wear guise with callers })
      (Guise.call_callers suits call connection.isConnected)
  | takeSender =>
    have used := suits.used
    simp only [apply, Callers.takeSender, wear, Guise.callers, used]
  | dropSocket =>
    simp only [apply, wear, Guise.callers, guise.held_false]
  | socket outcome | secure outcome =>
    dsimp only [apply, phase_wear]
    cases phase : connection.phase <;> simp [Guise.phase, wear, phase]
  | arrive | finish | setWrites | dropSender | advance | cancel => rfl

theorem foldl_apply_wear (suits : guise.Suits connection.callers) {inputs : List Input}
    (keep : ∀ input ∈ inputs, input.Keeps guise) :
    inputs.foldl apply (connection.wear guise) = (inputs.foldl apply connection).wear guise ∧
      guise.Suits (inputs.foldl apply connection).callers := by
  induction inputs generalizing connection with
  | nil => exact ⟨rfl, suits⟩
  | cons input inputs ih =>
    obtain ⟨first, rest⟩ := List.forall_mem_cons.mp keep
    rw [List.foldl_cons, List.foldl_cons, apply_wear suits]
    exact ih (suits_apply suits first) rest

theorem play_wear (suits : guise.Suits connection.callers) {inputs : List Input}
    (keep : ∀ input ∈ inputs, input.Keeps guise) :
    (connection.wear guise).play inputs = (connection.play inputs).wear guise ∧
      guise.Suits (connection.play inputs).callers := by
  obtain ⟨same, still⟩ := foldl_apply_wear suits keep
  rw [play, same]
  exact run_wear still

/-- A session in a guise is the session without it. -/
theorem playAll_wear (suits : guise.Suits connection.callers) {script : List (List Input)}
    (keep : ∀ group ∈ script, ∀ input ∈ group, input.Keeps guise) :
    (connection.wear guise).playAll script = (connection.playAll script).wear guise := by
  induction script generalizing connection with
  | nil => rfl
  | cons group script ih =>
    obtain ⟨first, rest⟩ := List.forall_mem_cons.mp keep
    obtain ⟨same, still⟩ := play_wear suits first
    rw [playAll, List.foldl_cons, same]
    exact ih still rest

/-! ## Moments of a session -/

/-- A session goes on from a moment inside one of its groups as from a beginning. -/
theorem playAll_from (start : Connection) (before : List (List Input)) (early late : List Input)
    (after : List (List Input)) :
    start.playAll (before ++ (early ++ late) :: after) =
      (early.foldl apply (start.playAll before)).playAll (late :: after) := by
  simp only [playAll, play, List.foldl_append, List.foldl_cons]

theorem step?_playAll {script : List (List Input)} (played : script ≠ []) (start : Connection) :
    (start.playAll script).step? = none := by
  obtain ⟨before, last, rfl⟩ := script.eq_nil_or_concat.resolve_left played
  rw [playAll, List.concat_eq_append, List.foldl_append]
  exact step?_run _

/-- A group in which nothing happens makes no difference. -/
theorem playAll_skip {before : List (List Input)} (played : before ≠ []) (start : Connection)
    (after : List (List Input)) :
    start.playAll (before ++ [] :: after) = start.playAll (before ++ after) := by
  have same : (start.playAll before).play [] = start.playAll before :=
    run_of_idle (step?_playAll played start)
  simp only [playAll, List.foldl_append, List.foldl_cons] at same ⊢
  rw [same]

end Connection

end WebSocket
