import WebSocket.Proofs.Connection.Arrivals
import WebSocket.Proofs.Connection.Foresight
import WebSocket.Proofs.Connection.Outgoing

/-! # A connection stops where its peer fails

A connection whose fate is sealed (`Doomed`) carries out the orders that it holds already, goes on
up to the frame that seals its fate, answers it with one close frame if it answers it at all, and
ends (`Doomed.concludes`). Nothing that arrives later makes a difference.
-/

namespace WebSocket

open StreamItem (entered framed)

/-! ## What a fate comes to -/

/-- The status code with which a violation is answered. -/
def Violation.statusCode : Violation → UInt16
  | .tooLarge => 1009
  | .unknownOpCode _ => 1003
  | .notUtf8 => 1007
  | _ => 1002

theorem Violation.toUInt16_closeCode (cause : Violation) :
    cause.closeCode.toUInt16 = cause.statusCode := by
  cases cause <;> rfl

/-- Whether the item tells neither of a state nor of a failure. -/
def StreamItem.isTraffic : StreamItem → Bool
  | .event told =>
    match told.status with
    | .entered _ => false
    | _ => true
  | .failure _ => false

namespace Fate

/-- What is written last: one close frame, with the status code and the text of the violation or
with the status code of the peer, and nothing when the stream is lost. -/
def farewell : Fate → List Frame
  | refused cause =>
    [.closeRaw (Bytes.writeBe 2 cause.statusCode.toNat ++ Bytes.ofString cause.message)]
  | closed payload => [.closeRaw (payload.take 2)]
  | lost _ => []

/-- The error with which the connection ends, if it ends with one. -/
def error? : Fate → Option Error
  | refused cause => some (.violation cause)
  | closed _ => none
  | lost .closed => some (.transport .aborted)
  | lost (.failed detail) => some (.transport (.io detail))

def lastState : Fate → ConnectionState
  | refused _ | lost _ => .aborted
  | closed _ => .disconnected

/-- What is told last. -/
def lastItems (fate : Fate) : List StreamItem :=
  (match fate with
    | closed payload =>
      [framed .closeReceived { opcode := .close, payload }, entered .disconnecting]
    | refused _ | lost _ => []) ++
    entered fate.lastState :: fate.error?.toList.map .failure

/-- No other error is told. -/
theorem error?_of_mem {fate : Fate} {error : Error} (member : .failure error ∈ fate.lastItems) :
    fate.error? = some error := by
  cases fate with
  | refused => simpa [lastItems, error?, eq_comm] using member
  | closed => simp [lastItems, error?] at member
  | lost ending => cases ending <;> simpa [lastItems, error?, eq_comm] using member

end Fate

namespace Connection

variable {connection next : Connection} {items : List StreamItem} {told : List StreamItem}
  {bytes : Bytes}

/-! ## Going on until the fate is met -/

/-- One connection comes from another one while frames go both ways: some writes succeed, and the
orders that the queue had no room for go on waiting. -/
structure Exchanges (connection : Connection) (attempts : List Attempt) (items : List StreamItem)
    (next : Connection) : Prop where
  tells : Tells connection items next
  traffic : ∀ item ∈ items, item.isTraffic = true
  options : next.options = connection.options
  sent : next.sentFrames = connection.sentFrames ++ attempts.flatMap connection.framesOnWire
  orders : connection.underWay ++ connection.callers.queue =
    attempts.filterMap Attempt.order? ++ (next.underWay ++ next.callers.queue)
  succeeded : ∀ attempt ∈ attempts, attempt.error = none ∧ attempt.job.isFinal = false
  answers : next.callers.answers.toList =
    connection.callers.answers.toList ++ attempts.filterMap Attempt.answer?
  waiting : next.callers.waiting = connection.callers.waiting

/-- Whether someone could still ask for something. A user whose call is being carried out holds a
handle of its own. -/
def IsUsed (connection : Connection) : Prop :=
  connection.callers.areGone = false ∨ connection.underWay ≠ []

/-- The connection goes on reading: frames go both ways, nothing makes the client end that by
itself, and writes work. -/
structure Attends (connection : Connection) : Prop where
  exchanging : connection.phase.rank = 3
  going : connection.cancelled = false
  used : connection.IsUsed
  noClose : ∀ command ∈ connection.callers.queue, command.order.isClose = false
  working : connection.stream.writes = .working

/-- The fate of a connection is sealed: frames go both ways, nothing makes the client end that by
itself, and what has arrived will. -/
structure Doomed (connection : Connection) (fate : Fate) : Prop where
  exchanging : connection.phase.rank = 3
  going : connection.cancelled = false
  used : connection.IsUsed
  noClose : ∀ command ∈ connection.callers.queue, command.order.isClose = false
  working : connection.stream.writes = .working
  assembly : connection.assembly.Sound
  decoder : connection.decoder.stage.IsLegal connection.decoder.limit
  ahead : connection.prospect connection.stream.ending [] = some fate

/-- What a connection does when it meets its fate. -/
inductive Meets (connection : Connection) : Fate → Connection → Prop where
  | refused (reads : connection.Reads) (cause : Violation) (after : Assembly) :
      Meets connection (.refused cause)
        ((connection.assembled after).write (.refusal cause))
  | closed (reads : connection.Reads) (payload : Bytes) (after : Assembly) :
      Meets connection (.closed payload)
        ((((connection.assembled after).reportFrame .closeReceived
          { opcode := .close, payload }).enter .disconnecting).write
            (.echo (.closeRaw (payload.take 2))))
  | lost (reads : connection.Reads) (ending : StreamEnd) :
      Meets connection (.lost ending) (connection.fail .aborted (.transport (lossBy ending)))

/-- A step while frames go both ways, with writes that work. -/
theorem Advances.exchanges (advances : connection.Advances items next)
    (before : connection.phase.rank = 3) (after : next.phase.rank = 3)
    (working : connection.stream.writes = .working)
    (traffic : ∀ item ∈ items, item.isTraffic = true)
    (waiting : next.callers.waiting = connection.callers.waiting) :
    Exchanges connection connection.attempted items next := by
  obtain ⟨dropped, balances⟩ := advances.balances
  have none : dropped = [] := by
    by_contra some
    have finished := isOver_iff.mp (balances.dropping some)
    omega
  subst none
  refine ⟨advances.tells, traffic, congrArg Surroundings.options advances.surroundings_eq,
    balances.sent, ?_, ?_, ?_, waiting⟩
  · have orders := balances.outstanding
    rw [outstanding, outstanding, waiting, List.append_nil, ← List.append_assoc,
      ← List.append_assoc, ← List.append_assoc] at orders
    rw [List.append_cancel_right orders, List.append_assoc]
  · intro attempt member
    unfold attempted at member
    split at member
    · next job writing _ =>
      obtain rfl := List.mem_singleton.mp member
      rw [writing, Phase.rank] at before
      refine ⟨rfl, ?_⟩
      by_contra final
      rw [Bool.not_eq_false] at final
      rw [if_pos final] at before
      cases before
    · next broken =>
      rw [working] at broken
      cases broken
    · cases member
  · rw [balances.answers, List.map_nil, List.append_nil]

theorem Attends.not_gone (attends : connection.Attends)
    (quiet : ∀ job, connection.phase ≠ .writing job) : connection.callers.areGone = false :=
  attends.used.resolve_right (not_not.mpr (underWay_of_not_writing quiet))

/-- The connection goes on reading as long as frames go both ways. -/
theorem Attends.goOn (attends : connection.Attends) (advances : connection.Advances items next)
    (after : next.phase.rank = 3) (used : next.IsUsed)
    (queue : ∀ command ∈ next.callers.queue, command ∈ connection.callers.queue) :
    next.Attends where
  exchanging := after
  going := (congrArg Surroundings.cancelled advances.surroundings_eq).trans attends.going
  used := used
  noClose command member := attends.noClose command (queue command member)
  working := (congrArg Surroundings.writes advances.surroundings_eq).trans attends.working

/-- A frame that was taken changes nothing about the callers. -/
theorem Attends.goOn_of_taken (attends : connection.Attends)
    (advances : connection.Advances items next) (reads : connection.Reads)
    (after : next.phase.rank = 3) (callers : next.callers = connection.callers) :
    next.Attends := by
  refine attends.goOn advances after (.inl ?_) (by simp [callers])
  rw [callers]
  exact reads.used

/-- A write that does not end the exchange is not the end of reading. -/
theorem Attends.goOn_of_write (attends : connection.Attends) {job : Job}
    (advances : connection.Advances (settledItems job true)
      ((connection.record (connection.framesOf job)).settle job none))
    (writing : connection.phase = .writing job) :
    ((connection.record (connection.framesOf job)).settle job none).Attends := by
  have exchanging := attends.exchanging
  cases job with
  | command id frames =>
    refine attends.goOn advances rfl (.inl ?_) fun _ member => member
    simp [settle, Callers.areGone, Callers.answer, answer, report]
  | keepAlive | pong =>
    have used := attends.used.resolve_right (by simp [underWay, writing, Job.order?])
    exact attends.goOn advances rfl (.inl used) fun _ member => member
  | close | echo | refusal => simp [writing, Phase.rank, Job.isFinal] at exchanging

section doomed

variable {fate : Fate}

theorem Doomed.attends (doomed : connection.Doomed fate) : connection.Attends :=
  ⟨doomed.exchanging, doomed.going, doomed.used, doomed.noClose, doomed.working⟩

/-- A connection whose fate is sealed always has something to do. -/
theorem Doomed.not_stuck (doomed : connection.Doomed fate) : connection.advance? ≠ none := by
  intro stuck
  rcases phase_of_rank doomed.exchanging with running | ⟨job, writing, -⟩
  · obtain ⟨-, waits, openEnded⟩ := waits_of_stuck running stuck
    have ahead := doomed.ahead
    rw [prospect_nil_of_waits _ waits, openEnded] at ahead
    cases ahead
  · simp [advance?, writing, stepWriting, doomed.working] at stuck

/-- What it does next does not depend on bytes that are still to arrive. -/
theorem Doomed.decided (doomed : connection.Doomed fate)
    (openEnded : connection.stream.ending = none) : connection.Decided := by
  unfold Decided
  rcases phase_of_rank doomed.exchanging with running | ⟨job, writing, -⟩
  · rw [running]
    intro _ waits
    have ahead := doomed.ahead
    rw [prospect_nil_of_waits _ waits, openEnded] at ahead
    cases ahead
  · rw [writing]
    trivial

/-- The fate stays sealed as long as the connection goes on reading. -/
theorem Doomed.goOn (doomed : connection.Doomed fate) (advances : connection.Advances items next)
    (attends : next.Attends) (assembly : next.assembly.Sound)
    (decoder : next.decoder.stage.IsLegal next.decoder.limit)
    (same : connection.prospect connection.stream.ending [] =
      next.prospect connection.stream.ending []) : next.Doomed fate := by
  have ending : next.stream.ending = connection.stream.ending :=
    congrArg Surroundings.ending advances.surroundings_eq
  refine ⟨attends.exchanging, attends.going, attends.used, attends.noClose, attends.working,
    assembly, decoder, ?_⟩
  rw [ending, ← same]
  exact doomed.ahead

/-- A frame that was taken and leaves the fate ahead. -/
theorem Doomed.goOn_of_taken (doomed : connection.Doomed fate)
    (advances : connection.Advances items next) (reads : connection.Reads) {frame : Frame}
    {outcome : Except Violation (Option Frame)} {after : Assembly}
    (pushed : connection.assembly.push frame = (outcome, after)) (phase : next.phase.rank = 3)
    (callers : next.callers = connection.callers) (assembly : next.assembly = after)
    (decoder : next.decoder = connection.decodeNext.decoder)
    (traffic : ∀ item ∈ items, item.isTraffic = true)
    (same : connection.prospect connection.stream.ending [] =
      next.prospect connection.stream.ending []) :
    Exchanges connection connection.attempted items next ∧ next.Doomed fate := by
  have sound := (Assembly.sound_push doomed.assembly frame).1
  rw [pushed] at sound
  have legal := (Decoder.decode_legal doomed.decoder connection.stream.inbox).stage
  rw [← Decoder.limit_decode connection.decoder connection.stream.inbox] at legal
  refine ⟨advances.exchanges doomed.exchanging phase doomed.working traffic (by rw [callers]), ?_⟩
  have attends := doomed.attends.goOn_of_taken advances reads phase callers
  exact doomed.goOn advances attends (by rwa [assembly]) (by rwa [decoder]) same

/-- A write that does not end the exchange leaves the fate ahead. -/
theorem Doomed.goOn_of_write (doomed : connection.Doomed fate) {job : Job}
    (advances : connection.Advances (settledItems job true)
      ((connection.record (connection.framesOf job)).settle job none))
    (writing : connection.phase = .writing job) :
    Exchanges connection connection.attempted (settledItems job true)
        ((connection.record (connection.framesOf job)).settle job none) ∧
      ((connection.record (connection.framesOf job)).settle job none).Doomed fate := by
  have exchanging := doomed.exchanging
  have attends := doomed.attends.goOn_of_write advances writing
  cases job with
  | command id frames =>
    have traffic : ∀ item ∈ settledItems (.command id frames) true, item.isTraffic = true := by
      simp only [settledItems, sentStatus, List.forall_mem_singleton]
      split <;> rfl
    refine ⟨advances.exchanges exchanging rfl doomed.working traffic rfl, ?_⟩
    exact doomed.goOn advances attends doomed.assembly doomed.decoder rfl
  | keepAlive | pong =>
    refine ⟨advances.exchanges exchanging rfl doomed.working
      (by simp [settledItems, StreamItem.isTraffic]) rfl, ?_⟩
    exact doomed.goOn advances attends doomed.assembly doomed.decoder rfl
  | close | echo | refusal => simp [writing, Phase.rank, Job.isFinal] at exchanging

/-- A close frame that is taken and is valid is the fate. -/
theorem Doomed.meets_of_close (doomed : connection.Doomed fate) (reads : connection.Reads)
    {frame message : Frame} (takes : connection.Takes frame) {after : Assembly}
    (pushed : connection.assembly.push frame = (.ok (some message), after))
    (close : message.opcode = .close) {echo : Frame} (valid : message.closeEcho = .ok echo) :
    connection.Meets fate ((((connection.assembled after).reportFrame .closeReceived
      message).enter .disconnecting).write (.echo echo)) := by
  have isLegal :=
    (Decoder.decode_legal doomed.decoder connection.stream.inbox).frame frame takes.decoded
  obtain rfl := doomed.assembly.eq_of_control pushed (by rw [close]; rfl)
  have plain := isLegal.eq_of_final takes.unmasked (isLegal.control (by rw [close]; rfl)).1
  rw [Frame.closeEcho_eq] at valid
  have sealed := (prospect_of_message _ _ doomed.assembly takes pushed).symm.trans doomed.ahead
  rw [Frame.fateAfter, close] at sealed
  dsimp only at valid sealed
  split at valid
  · cases valid
  · next faultless =>
    cases valid
    rw [faultless] at sealed
    cases sealed
    rw [close] at plain
    rw [plain]
    exact .closed reads message.payload after

/-- A connection whose fate is sealed goes on with the exchange or meets its fate. -/
theorem Doomed.step (doomed : connection.Doomed fate) (advances : connection.Advances items next) :
    (Exchanges connection connection.attempted items next ∧ next.Doomed fate) ∨
      connection.Meets fate next := by
  have exchanging := doomed.exchanging
  have kept := advances
  have ahead {seen : Option Fate}
      (same : connection.prospect connection.stream.ending [] = seen) : seen = some fate :=
    same.symm.trans doomed.ahead
  cases advances with
  | cancelsDialing phase | dialingFails phase | hostUnfit phase | beginsSecuring phase
  | opensPlain phase | cancelsSecuring phase | securingFails phase | opensSecure phase
  | requests phase | readsHead phase | upgrades phase | dropsFrame phase | peerAnswers phase
  | givesUpPeer phase | endsWait phase => simp [phase, Phase.rank] at exchanging
  | upgradeFails fails =>
    rcases fails.phase_cases with ⟨_, phase⟩ | ⟨_, _, _, phase⟩
    all_goals simp [phase, Phase.rank] at exchanging
  | stops running cancelled =>
    rw [doomed.going] at cancelled
    cases cancelled
  | takesSend running going queued =>
    refine .inl ⟨kept.exchanges exchanging rfl doomed.working (by simp) rfl, ?_⟩
    refine doomed.goOn kept (doomed.attends.goOn kept rfl ?_ ?_) doomed.assembly doomed.decoder rfl
    · exact .inr (by simp [underWay, Job.order?])
    · rw [queued]
      exact fun command member => List.mem_cons_of_mem _ member
  | takesClose running going queued =>
    have noClose := doomed.noClose
    rw [queued] at noClose
    cases noClose _ List.mem_cons_self
  | abandoned running going noOrder gone =>
    rw [doomed.attends.not_gone (by simp [running])] at gone
    cases gone
  | pings running going noOrder used =>
    refine .inl ⟨kept.exchanges exchanging rfl doomed.working (by simp) rfl, ?_⟩
    have attends := doomed.attends.goOn kept rfl (.inl used) fun _ member => member
    exact doomed.goOn kept attends doomed.assembly doomed.decoder rfl
  | @refuses reads cause after offends =>
    cases ahead (offends.prospect_eq doomed.assembly _ _)
    exact .inr (.refused reads cause after)
  | collects reads takes pushed =>
    refine .inl (doomed.goOn_of_taken kept reads pushed exchanging rfl rfl rfl (by simp) ?_)
    rw [prospect_of_takes _ _ doomed.assembly takes, pushed]
    rfl
  | answersPing reads takes pushed ping =>
    refine .inl (doomed.goOn_of_taken kept reads pushed rfl rfl rfl rfl
      (by simp [StreamItem.isTraffic]) ?_)
    rw [prospect_of_message _ _ doomed.assembly takes pushed, Frame.fateAfter, ping]
    rfl
  | hearsPong reads takes pushed pong =>
    refine .inl (doomed.goOn_of_taken kept reads pushed exchanging rfl rfl rfl
      (by simp [StreamItem.isTraffic]) ?_)
    rw [prospect_of_message _ _ doomed.assembly takes pushed, Frame.fateAfter, pong]
    rfl
  | receives reads takes pushed data readable =>
    refine .inl (doomed.goOn_of_taken kept reads pushed exchanging rfl rfl rfl
      (by simp [StreamItem.isTraffic]) ?_)
    rw [prospect_of_message _ _ doomed.assembly takes pushed, Frame.fateAfter_of_data data,
      isBadText_of_readable readable, if_neg Bool.false_ne_true]
    rfl
  | peerCloses reads takes pushed close valid =>
    exact .inr (doomed.meets_of_close reads takes pushed close valid)
  | @loses reads waits ending ended =>
    cases ahead (by rw [prospect_nil_of_waits _ waits, ended])
    exact .inr (.lost reads ending)
  | keepsPart listening waits openEnded =>
    cases ahead (by rw [prospect_nil_of_waits _ waits, openEnded])
  | writes writing => exact .inl (doomed.goOn_of_write kept writing)
  | failsToWrite writing broken =>
    rw [doomed.working] at broken
    cases broken
  | usersRun stuck => exact absurd stuck doomed.not_stuck

/-! ## The end -/

/-- How a connection ends with its fate, after so many more writes and so much more traffic. -/
structure Concludes (connection : Connection) (fate : Fate) (attempts : List Attempt)
    (items : List StreamItem) (ended : Connection) : Prop where
  isOver : ended.isOver = true
  state : ended.state = fate.lastState
  isShut : fate.farewell ≠ [] → ended.stream.isShut = true
  told : ended.items.toList = connection.items.toList ++
    if connection.callers.socketHeld then items ++ fate.lastItems else []
  traffic : ∀ item ∈ items, item.isTraffic = true
  sent : ended.sentFrames =
    connection.sentFrames ++ attempts.flatMap connection.framesOnWire ++ fate.farewell
  /-- The orders that were under way or in the queue are carried out, and no others. -/
  orders : attempts.filterMap Attempt.order? = connection.underWay ++ connection.callers.queue
  succeeded : ∀ attempt ∈ attempts, attempt.error = none ∧ attempt.job.isFinal = false
  /-- The orders that the queue had no room for are answered without being carried out. -/
  answers : ended.callers.answers.toList =
    connection.callers.answers.toList ++ attempts.filterMap Attempt.answer? ++
      connection.callers.waiting.map Command.notTaken
  pending : ended.pending = []

/-- The end is all about what is seen. -/
theorem Concludes.congr {attempts : List Attempt} {ended other : Connection}
    (concludes : connection.Concludes fate attempts items ended) (same : other.seen = ended.seen) :
    connection.Concludes fate attempts items other where
  isOver := (congrArg Seen.isOver same).trans concludes.isOver
  state := (congrArg Seen.state same).trans concludes.state
  isShut answered := (congrArg Seen.isShut same).trans (concludes.isShut answered)
  told := (congrArg (Seen.items · |>.toList) same).trans concludes.told
  traffic := concludes.traffic
  sent := (congrArg (Seen.written · |>.toList.filterMap Written.frame?) same).trans concludes.sent
  orders := concludes.orders
  succeeded := concludes.succeeded
  answers := (congrArg (Seen.answers · |>.toList) same).trans concludes.answers
  pending := (congrArg Seen.pending same).trans concludes.pending

/-- What happens before the end counts. -/
theorem Concludes.after {early late : List Attempt} {first second : List StreamItem}
    {ended : Connection} (concludes : next.Concludes fate late second ended)
    (exchanges : Exchanges connection early first next) :
    connection.Concludes fate (early ++ late) (first ++ second) ended where
  isOver := concludes.isOver
  state := concludes.state
  isShut := concludes.isShut
  told := by
    rw [concludes.told, exchanges.tells.items, exchanges.tells.held, List.append_assoc]
    split <;> simp
  traffic item member :=
    (List.mem_append.mp member).elim (exchanges.traffic item) (concludes.traffic item)
  sent := by
    rw [concludes.sent, exchanges.sent, framesOnWire_congr exchanges.options, List.flatMap_append]
    simp only [List.append_assoc]
  orders := by rw [List.filterMap_append, concludes.orders, exchanges.orders]
  succeeded attempt member :=
    (List.mem_append.mp member).elim (exchanges.succeeded attempt) (concludes.succeeded attempt)
  answers := by
    rw [concludes.answers, exchanges.answers, exchanges.waiting, List.filterMap_append]
    simp only [List.append_assoc]
  pending := concludes.pending

/-- A connection that turns to what has arrived ends. -/
theorem concludes_of_reads {ended : Connection} (reads : connection.Reads)
    (phase : ended.phase = .ended) (state : ended.state = fate.lastState)
    (isShut : fate.farewell ≠ [] → ended.stream.isShut = true)
    (tells : Tells connection fate.lastItems ended)
    (sent : ended.sentFrames = connection.sentFrames ++ fate.farewell)
    (callers : ended.callers = connection.callers.release) :
    connection.Concludes fate [] [] ended where
  isOver := by simp [Connection.isOver, phase]
  state := state
  isShut := isShut
  told := tells.items
  traffic _ member := absurd member List.not_mem_nil
  sent := by rw [sent, List.flatMap_nil, List.append_nil]
  orders := by simp [underWay_of_not_writing, reads.running, reads.noOrder]
  succeeded _ member := absurd member List.not_mem_nil
  answers := by simp [callers, Callers.release_eq, reads.noOrder]
  pending := by simp [pending_eq, outstanding, underWay, phase, callers, Callers.release_eq]

/-- The last write of a connection ends it. -/
theorem seen_run_of_last (connection : Connection) {job : Job}
    (writing : connection.phase = .writing job)
    (working : connection.stream.writes = .working)
    (last : ((connection.record (connection.framesOf job)).settle job none).phase = .ended) :
    connection.run.seen =
      ((connection.record (connection.framesOf job)).settle job none).seen := by
  have step : connection.step? =
      some ((connection.record (connection.framesOf job)).settle job none) := by
    simp [step?, advance?, writing, stepWriting, working]
  rw [run_of_step step, seen_run_of_ended last]

/-- Bytes that arrive during the last write make no difference. -/
theorem seen_run_behind_of_last {job : Job} (writing : connection.phase = .writing job)
    (working : connection.stream.writes = .working)
    (last : ((connection.record (connection.framesOf job)).settle job none).phase = .ended)
    (more : Bytes) : (connection.behind more).run.seen = connection.run.seen := by
  have same := settle_behind (connection.record (connection.framesOf job)) more job none
  have early := seen_run_of_last (connection.behind more) writing working
    ((congrArg Connection.phase same).trans last)
  rw [early, seen_run_of_last connection writing working last]
  exact (congrArg seen same).trans rfl

theorem sentFrames_settle (before : Connection) (frames : List Frame) (job : Job)
    (error : Option TransportError) :
    ((before.record frames).settle job error).sentFrames = before.sentFrames ++ frames := by
  rw [sentFrames, written_settle, ← sentFrames, sentFrames_record]

theorem Meets.concludes (meets : connection.Meets fate next)
    (working : connection.stream.writes = .working) :
    connection.Concludes fate [] [] next.run := by
  cases meets with
  | refused reads cause after =>
    refine Concludes.congr (concludes_of_reads reads rfl rfl (fun _ => rfl) ?_ ?_ rfl)
      (seen_run_of_last _ rfl working rfl)
    · exact .after (.settle _ (.refusal cause) none) rfl rfl
    · rw [sentFrames_settle]
      refine congrArg (connection.sentFrames ++ [·]) ?_
      rw [Frame.close, cause.toUInt16_closeCode]
  | closed reads payload after =>
    refine Concludes.congr (concludes_of_reads reads rfl rfl (fun _ => rfl) ?_ ?_ rfl)
      (seen_run_of_last _ rfl working rfl)
    · have closing : Tells (connection.assembled after)
          [framed .closeReceived { opcode := .close, payload }, entered .disconnecting] _ :=
        (Tells.emit _ _).trans (.enter _ _)
      exact .after (closing.trans (.after (.settle _ (.echo _) none) rfl rfl)) rfl rfl
    · rw [sentFrames_settle]
      rfl
  | lost reads ending =>
    refine Concludes.congr
      (concludes_of_reads reads rfl rfl (fun answered => absurd rfl answered) ?_ ?_ rfl)
      (seen_run_of_ended rfl)
    · cases ending <;> exact .fail ..
    · exact (List.append_nil _).symm

/-- Bytes that arrive while a connection meets its fate make no difference. -/
theorem Meets.seen_run_behind (meets : connection.Meets fate next)
    (working : connection.stream.writes = .working) (more : Bytes) :
    (next.behind more).run.seen = next.run.seen := by
  cases meets with
  | refused | closed =>
    refine seen_run_behind_of_last rfl ?_ rfl more
    exact working
  | lost =>
    rw [seen_run_of_ended rfl, seen_run_of_ended rfl]
    rfl

/-- A connection whose fate is sealed meets it, and bytes that arrive on the way make no
difference. -/
theorem Doomed.concludes (doomed : connection.Doomed fate) :
    (∃ attempts items, connection.Concludes fate attempts items connection.run) ∧
      (connection.stream.ending = none →
        ∀ more, (connection.behind more).run.seen = connection.run.seen) := by
  fun_induction run connection with
  | case1 connection idle =>
    exact absurd (stuck_of_idle idle).1 doomed.not_stuck
  | case2 connection next step ih =>
    obtain ⟨items, advances⟩ := advances_of_step? step
    have stepsBehind (openEnded : connection.stream.ending = none) (more : Bytes) :
        (connection.behind more).run = (next.behind more).run := by
      refine run_of_step ?_
      rw [step?_behind (doomed.decided openEnded), step]
      rfl
    rcases doomed.step advances with ⟨exchanges, still⟩ | meets
    · obtain ⟨⟨attempts, later, concludes⟩, unmoved⟩ := ih still
      have ending : next.stream.ending = connection.stream.ending :=
        congrArg Surroundings.ending advances.surroundings_eq
      refine ⟨⟨_, _, concludes.after exchanges⟩, fun openEnded more => ?_⟩
      rw [stepsBehind openEnded, unmoved (ending.trans openEnded)]
    · refine ⟨⟨_, _, meets.concludes doomed.working⟩, fun openEnded more => ?_⟩
      rw [stepsBehind openEnded, meets.seen_run_behind doomed.working]

end doomed

/-! ## Every run -/

variable {url : Url} {options : Options} {nonce : Bytes} {keys : Nat → MaskKey}
  {inputs : List Input}

/-- A failure is told only at the end. -/
theorem Advances.not_failure (advances : connection.Advances items next)
    (alive : 0 < next.phase.rank) (error : Error) : .failure error ∉ items := by
  cases advances with
  | cancelsDialing | dialingFails | hostUnfit | cancelsSecuring | securingFails | upgradeFails
  | stops | loses => cases alive
  | @writes job | @failsToWrite job =>
    cases job with
    | command id frames => simp [settledItems]
    | keepAlive | pong | close | echo => simp [settledItems]
    | refusal => cases alive
  | _ => simp

theorem items_attach :
    (attach url options nonce keys).items.toList =
      [entered .initialized, entered .streamConnected, entered .upgrading] := rfl

theorem Reaches.not_failure {start : Connection} (reaches : Reaches start inputs connection)
    (clean : ∀ error, .failure error ∉ start.items.toList) (alive : 0 < connection.phase.rank) :
    ∀ error, .failure error ∉ connection.items.toList := by
  induction reaches with
  | start => exact clean
  | @step inputs connection next reaches step ih =>
    obtain ⟨items, advances⟩ := advances_of_step? step
    intro error member
    rw [advances.tells.items, List.mem_append] at member
    rcases member with earlier | now
    · exact ih (alive.trans_le (rank_le_of_step step)) error earlier
    · split at now
      · exact advances.not_failure alive error now
      · cases now
  | apply reaches input ih =>
    rw [items_apply]
    rw [(learns_apply ..).rank_eq] at alive
    exact ih alive

/-- While frames go both ways and writes work, a connection that neither was told to stop nor has
lost its users nor holds an order to close meets the fate that the bytes of its peer bring about. It
carries out the orders that its queue holds, and then a violation of the protocol is answered with a
close frame of its status code and its text, a valid close frame with its status code, and the end
of the stream not at all. A violation and the end of the stream abort the connection with their
error, a close frame ends it without one. The close frame is the only one, and no bytes that arrive
before or after the end make a difference to anything that is seen. -/
theorem Reaches.fail_stop (valid : options.validate = .ok ())
    (reaches : Reaches (attach url options nonce keys) inputs connection)
    (connected : connection.isConnected = true)
    (unrefused : ∀ cause, connection.phase ≠ .writing (.refusal cause))
    (going : connection.cancelled = false) (used : connection.IsUsed)
    (noClose : ∀ command ∈ connection.callers.queue, command.order.isClose = false)
    (working : connection.stream.writes = .working) {fate : Fate}
    (met : judged options connection.stream.ending (received inputs) = some fate) :
    (∃ attempts items, connection.Concludes fate attempts items connection.run) ∧
      (∀ before last, connection.run.sentFrames = before ++ [last] →
        ∀ frame ∈ before, frame.opcode ≠ .close) ∧
      (∀ error, .failure error ∈ connection.run.items.toList → fate.error? = some error) ∧
      ∀ more, (connection.apply (.arrive more)).run.seen = connection.run.seen ∧
        (connection.run.play [.arrive more]).seen = connection.run.seen := by
  have exchanging := rank_of_connected (reaches.fits (fits_attach ..)) connected unrefused
  obtain ⟨told, listens⟩ := reaches.listens exchanging
  have ahead := reaches.foreseen exchanging connection.stream.ending []
  rw [List.append_nil, reaches.options_eq] at ahead
  have doomed : connection.Doomed fate :=
    ⟨exchanging, going, used, noClose, working, listens.assembly, listens.decoder, ahead.trans met⟩
  obtain ⟨⟨attempts, items, concludes⟩, unmoved⟩ := doomed.concludes
  refine ⟨⟨attempts, items, concludes⟩, ?_, ?_, fun more => ⟨?_, ?_⟩⟩
  · intro before last split
    have ordered := reaches.run.pairwise_sentFrames valid
    rw [split, List.pairwise_append] at ordered
    exact fun frame member => ordered.2.2 frame member last (List.mem_singleton_self last)
  · intro error member
    have clean := reaches.not_failure (fun error => by simp [items_attach]) (by omega)
    rw [concludes.told, List.mem_append] at member
    rcases member with earlier | now
    · exact absurd earlier (clean error)
    · split at now
      · rcases List.mem_append.mp now with during | last
        · cases concludes.traffic _ during
        · exact Fate.error?_of_mem last
      · cases now
  · cases ended : connection.stream.ending with
    | none => rw [apply_arrive_of_open ended, unmoved ended]
    | some ending => rw [apply_arrive_of_ended (by rw [ended]; rfl)]
  · exact seen_play_arrive_of_ended (phase_of_isOver concludes.isOver) more

/-- A text arrives inside a fragmented message, behind more pings of the user than the queue can
hold. -/
theorem fail_stop_of_text_inside_text :
    let bytes := agreement ++ [0x01, 0x01, 0x61]
    let connected := (plainStart.apply (.arrive bytes)).stepUpTo 6
    let pings := List.replicate 65 (.call (.ping []))
    let doomed := (pings.foldl apply connected).apply (.arrive [0x81, 0x01, 0x62])
    let inputs := [.arrive bytes] ++ pings ++ [.arrive [0x81, 0x01, 0x62]]
    ({} : Options).validate = .ok () ∧ Reaches plainStart inputs doomed ∧
      doomed.isConnected = true ∧ (∀ cause, doomed.phase ≠ .writing (.refusal cause)) ∧
      doomed.cancelled = false ∧ doomed.IsUsed ∧
      (∀ command ∈ doomed.callers.queue, command.order.isClose = false) ∧
      doomed.stream.writes = .working ∧
      judged {} doomed.stream.ending (received inputs) = some (.refused .messageInsideMessage) ∧
      doomed.run.sentFrames.getLast? =
        some (.closeRaw ([0x03, 0xEA] ++ Bytes.ofString "Invalid fragment")) ∧
      doomed.run.callers.answers.back? = some ⟨64, some (.call .notConnected)⟩ ∧
      (doomed.apply (.arrive [0x89, 0x00])).run.seen = doomed.run.seen := by
  intro bytes connected pings doomed inputs
  have valid : ({} : Options).validate = .ok () := rfl
  have reaches : Reaches plainStart inputs doomed :=
    (((Reaches.start.apply _).stepUpTo 6).foldl_apply pings).apply _
  obtain ⟨rank, isConnected, going, used, noClose, working, openEnded, waiting⟩ :
      doomed.phase.rank = 3 ∧ doomed.isConnected = true ∧ doomed.cancelled = false ∧
        doomed.callers.areGone = false ∧
        (∀ command ∈ doomed.callers.queue, command.order.isClose = false) ∧
        doomed.stream.writes = .working ∧ doomed.stream.ending = none ∧
        doomed.callers.waiting.map Command.notTaken = [⟨64, some (.call .notConnected)⟩] := by
    decide +kernel
  have unrefused : ∀ cause, doomed.phase ≠ .writing (.refusal cause) := by
    intro cause writing
    rw [writing] at rank
    cases rank
  have met : judged {} doomed.stream.ending (received inputs) =
      some (.refused .messageInsideMessage) := by
    obtain ⟨told, listens⟩ := reaches.listens rank
    have takes : doomed.Takes (.text [0x62]) := ⟨by decide +kernel, rfl⟩
    have opened : doomed.assembly.opener.isSome = true := by decide +kernel
    have offends : doomed.Offends .messageInsideMessage doomed.assembly :=
      .unassembled takes (by simp [Assembly.push, Frame.text, opened])
    have foreseen := reaches.foreseen rank doomed.stream.ending []
    rw [offends.prospect_eq listens.assembly, List.append_nil, reaches.options_eq] at foreseen
    exact foreseen.symm
  obtain ⟨⟨attempts, items, concludes⟩, -, -, unmoved⟩ :=
    Reaches.fail_stop valid reaches isConnected unrefused going (.inl used) noClose working met
  refine ⟨valid, reaches, isConnected, unrefused, going, .inl used, noClose, working, met, ?_, ?_,
    (unmoved _).1⟩
  · rw [concludes.sent, Fate.farewell, List.getLast?_append]
    rfl
  · rw [← Array.getLast?_toList, concludes.answers, waiting, List.getLast?_append]
    rfl

end Connection

end WebSocket
