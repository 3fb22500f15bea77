import Mathlib.Data.List.Perm.Basic
import WebSocket.Proofs.Connection.Runs

/-! # The books of a run

Two books are kept beside a run (`Records`): the calls with the state that they met, and the writes
that ended with what came of them. The first one says which orders were placed and which calls were
answered at once. A step never loses or invents an order: what was outstanding is carried out, stays
outstanding or is dropped at the end of the connection, and it is answered accordingly
(`Advances.balances`). So the books account for every order, every answer and every frame on the
wire (`Records.audit`).
-/

namespace WebSocket

/-! ## Orders and their answers -/

/-- The order that a write carries out, if it carries out one. -/
def Job.order? : Job → Option Command
  | .command id frames => some ⟨id, .send frames⟩
  | .close reason (some id) => some ⟨id, .close reason⟩
  | .close _ none | .keepAlive | .pong _ | .echo _ | .refusal _ => none

/-- The answer to an order that nobody will take any more. -/
def Command.notTaken (command : Command) : Answer :=
  ⟨command.id, some (.call .notConnected)⟩

/-- A write that has ended. -/
structure Attempt where
  job : Job
  /-- The error with which it failed, if it did. -/
  error : Option TransportError
deriving DecidableEq, Repr

namespace Attempt

def order? (attempt : Attempt) : Option Command :=
  attempt.job.order?

/-- The answer that the end of the write gives to a call. -/
def answer? (attempt : Attempt) : Option Answer :=
  attempt.order?.map fun command => ⟨command.id, attempt.error.map .transport⟩

theorem map_id_answer? (attempts : List Attempt) :
    (attempts.filterMap answer?).map Answer.id = (attempts.filterMap order?).map Command.id := by
  induction attempts with
  | nil => rfl
  | cons attempt attempts ih =>
    cases order : attempt.order? with
    | none => simpa [answer?, order] using ih
    | some command => simpa [answer?, order] using ih

end Attempt

/-- A call, and whether it met a connection that was connected. -/
structure MadeCall where
  call : Call
  connected : Bool
deriving DecidableEq, Repr

namespace MadeCall

/-- The order that a call places. -/
def order? (made : MadeCall) (id : Nat) : Option Command :=
  match made.call.check made.connected with
  | .ok (some order) => some ⟨id, order⟩
  | .ok none | .error _ => none

/-- The answer to a call that places no order. -/
def answer? (made : MadeCall) (id : Nat) : Option Answer :=
  match made.call.check made.connected with
  | .ok (some _) => none
  | .ok none => some ⟨id, none⟩
  | .error cause => some ⟨id, some (.call cause)⟩

/-- The orders that calls place, which are numbered from the first call on. -/
def orders (calls : List MadeCall) : List Command :=
  calls.zipIdx.filterMap fun (made, id) => made.order? id

/-- The answers that calls get at once. -/
def answers (calls : List MadeCall) : List Answer :=
  calls.zipIdx.filterMap fun (made, id) => made.answer? id

theorem orders_append (calls : List MadeCall) (made : MadeCall) :
    orders (calls ++ [made]) = orders calls ++ (made.order? calls.length).toList := by
  rw [orders, List.zipIdx_append, List.filterMap_append, Nat.zero_add]
  cases order : made.order? calls.length <;> simp [orders, order]

theorem answers_append (calls : List MadeCall) (made : MadeCall) :
    answers (calls ++ [made]) = answers calls ++ (made.answer? calls.length).toList := by
  rw [answers, List.zipIdx_append, List.filterMap_append, Nat.zero_add]
  cases answer : made.answer? calls.length <;> simp [answers, answer]

/-- A call places an order or is answered at once. -/
theorem order?_or_answer? (made : MadeCall) (id : Nat) :
    (∃ order, made.order? id = some ⟨id, order⟩ ∧ made.answer? id = none) ∨
      (∃ error, made.order? id = none ∧ made.answer? id = some ⟨id, error⟩) := by
  unfold order? answer?
  cases made.call.check made.connected with
  | error cause => exact .inr ⟨_, rfl, rfl⟩
  | ok order =>
    cases order with
    | none => exact .inr ⟨_, rfl, rfl⟩
    | some order => exact .inl ⟨order, rfl, rfl⟩

/-- A call places an order when it is not refused and asks for anything to be done. -/
theorem order?_eq_some_iff {made : MadeCall} {id : Nat} {command : Command} :
    made.order? id = some command ↔
      made.call.misuse? = none ∧ made.connected = true ∧ made.call.order ≠ .send [] ∧
        command = ⟨id, made.call.order⟩ := by
  unfold order? Call.check
  cases made.call.misuse? with
  | some error => simp
  | none =>
    cases made.connected with
    | false => simp
    | true =>
      by_cases nothing : made.call.order = .send []
      · simp [nothing]
      · simp [nothing, eq_comm]

/-- An order comes from the call whose number it has. -/
theorem of_mem_orders {calls : List MadeCall} {command : Command}
    (member : command ∈ orders calls) :
    ∃ made, calls[command.id]? = some made ∧ made.call.misuse? = none ∧
      command.order = made.call.order := by
  obtain ⟨⟨made, id⟩, entry, placed⟩ := List.mem_filterMap.mp member
  obtain ⟨fine, -, -, rfl⟩ := order?_eq_some_iff.mp placed
  exact ⟨made, List.mem_zipIdx_iff_getElem?.mp entry, fine, rfl⟩

/-- Orders are numbered in the order in which they are placed. -/
theorem orders_sorted (calls : List MadeCall) :
    (orders calls).Pairwise fun earlier later => earlier.id < later.id := by
  have numbered : calls.zipIdx.Pairwise fun earlier later => earlier.2 < later.2 := by
    have sorted : (calls.zipIdx.map Prod.snd).Pairwise (· < ·) := by
      rw [List.zipIdx_map_snd]
      exact List.pairwise_lt_range' ..
    exact List.pairwise_map.mp sorted
  refine List.Pairwise.filterMap _ ?_ numbered
  intro first second lower earlier isFirst later isSecond
  obtain ⟨-, -, -, rfl⟩ := order?_eq_some_iff.mp isFirst
  obtain ⟨-, -, -, rfl⟩ := order?_eq_some_iff.mp isSecond
  exact lower

end MadeCall

/-! ## Callers -/

namespace Callers

theorem foldl_answer (commands : List Command) (callers : Callers) :
    commands.foldl (fun callers command => callers.answer command.id (some (.call .notConnected)))
        callers =
      { callers with
        answers := callers.answers ++ (commands.map Command.notTaken).toArray
        unnoticed := callers.unnoticed + commands.length } := by
  induction commands generalizing callers with
  | nil => simp
  | cons command commands ih =>
    rw [List.foldl_cons, ih]
    simp only [answer, Command.notTaken, List.map_cons, List.length_cons, mk.injEq, true_and]
    refine ⟨?_, by simp⟩
    omega

/-- Releasing the callers empties the queue and answers all that stood in it. -/
theorem release_eq (callers : Callers) :
    callers.release =
      { callers with
        queue := []
        waiting := []
        answers := callers.answers ++
          ((callers.queue ++ callers.waiting).map Command.notTaken).toArray
        unnoticed := callers.unnoticed + (callers.queue ++ callers.waiting).length } :=
  foldl_answer _ _

/-- A call joins the end of the queue or is answered, and takes the next number. -/
theorem call_spec (callers : Callers) (call : Call) (connected : Bool) :
    let made : MadeCall := ⟨call, connected⟩
    let after := callers.call call connected
    after.queue ++ after.waiting =
        callers.queue ++ callers.waiting ++ (made.order? callers.nextId).toList ∧
      after.answers.toList = callers.answers.toList ++ (made.answer? callers.nextId).toList ∧
      after.nextId = callers.nextId + 1 := by
  simp only [Callers.call, MadeCall.order?, MadeCall.answer?]
  cases call.check connected with
  | error cause => simp
  | ok order =>
    cases order with
    | none => simp
    | some order =>
      dsimp only
      split
      · next room =>
        simp only [Bool.and_eq_true, List.isEmpty_iff] at room
        simp [room.1]
      · simp

end Callers

theorem Phase.Learns.rank_eq {before after : Phase} (learns : before.Learns after) :
    after.rank = before.rank := by
  cases learns <;> rfl

/-- The frame of what was written, when it is one. -/
def Written.frame? : Written → Option Frame
  | .request _ => none
  | .frame _ sent => some sent

namespace Connection

variable {connection next : Connection} {items : List StreamItem}

/-! ## What is on the wire -/

/-- The frames that the client has written, in their order. -/
def sentFrames (connection : Connection) : List Frame :=
  connection.written.toList.filterMap Written.frame?

/-- What a write put on the wire: all of its frames, or nothing when it failed. -/
def framesOnWire (connection : Connection) (attempt : Attempt) : List Frame :=
  if attempt.error.isNone then connection.framesOf attempt.job else []

theorem sentFrames_record (connection : Connection) (frames : List Frame) :
    (connection.record frames).sentFrames = connection.sentFrames ++ frames := by
  unfold sentFrames record
  generalize connection.written = written
  induction frames generalizing written with
  | nil => simp
  | cons frame frames ih =>
    rw [List.foldl_cons, ih]
    simp [Written.frame?]

/-- The frames of a write depend on the options only. -/
theorem framesOnWire_congr (same : next.options = connection.options) :
    next.framesOnWire = connection.framesOnWire := by
  funext attempt
  unfold framesOnWire framesOf
  rw [same]

/-! ## What is outstanding -/

/-- The order that is being carried out. -/
def underWay (connection : Connection) : List Command :=
  match connection.phase with
  | .writing job => job.order?.toList
  | _ => []

/-- The orders that have no answer yet, oldest first. -/
def outstanding (connection : Connection) : List Command :=
  connection.underWay ++ (connection.callers.queue ++ connection.callers.waiting)

theorem pending_eq (connection : Connection) :
    connection.pending = connection.outstanding.map Command.id := by
  simp only [pending, outstanding, underWay, List.map_append]
  congr 1
  cases connection.phase with
  | writing job =>
    cases job with
    | close reason id => cases id <;> rfl
    | _ => rfl
  | _ => rfl

theorem underWay_of_not_writing (quiet : ∀ job, connection.phase ≠ .writing job) :
    connection.underWay = [] := by
  unfold underWay
  split
  · next job writing => exact absurd writing (quiet job)
  · rfl

section recording

variable (connection : Connection)

@[simp] theorem phase_reportFrame (status : ConnectionStatus) (frame : Frame) :
    (connection.reportFrame status frame).phase = connection.phase := rfl

@[simp] theorem phase_assembled (assembly : Assembly) :
    (connection.assembled assembly).phase = connection.phase := rfl

@[simp] theorem phase_afterDecoding (decoded : Decoded) :
    (connection.afterDecoding decoded).phase = connection.phase := rfl

@[simp] theorem callers_enter (state : ConnectionState) :
    (connection.enter state).callers = connection.callers := rfl

@[simp] theorem callers_reportFrame (status : ConnectionStatus) (frame : Frame) :
    (connection.reportFrame status frame).callers = connection.callers := rfl

@[simp] theorem callers_write (job : Job) : (connection.write job).callers = connection.callers :=
  rfl

@[simp] theorem callers_assembled (assembly : Assembly) :
    (connection.assembled assembly).callers = connection.callers := rfl

@[simp] theorem callers_afterDecoding (decoded : Decoded) :
    (connection.afterDecoding decoded).callers = connection.callers := rfl

@[simp] theorem callers_startUpgrade (opened : ConnectionState) :
    (connection.startUpgrade opened).callers = connection.callers := rfl

@[simp] theorem callers_shutDown : connection.shutDown.callers = connection.callers := rfl

@[simp] theorem callers_fail (state : ConnectionState) (error : Error) :
    (connection.fail state error).callers = connection.callers.release := rfl

@[simp] theorem callers_finishClosing :
    connection.finishClosing.callers = connection.callers.release := rfl

@[simp] theorem callers_failUpgrade (error : Error) :
    (connection.failUpgrade error).callers = connection.callers.release := by
  cases error with
  | upgrade cause => cases cause <;> simp [failUpgrade, report]
  | _ => simp [failUpgrade]

@[simp] theorem written_emit (item : StreamItem) :
    (connection.emit item).written = connection.written := rfl

@[simp] theorem written_enter (state : ConnectionState) :
    (connection.enter state).written = connection.written := rfl

@[simp] theorem written_reportFrame (status : ConnectionStatus) (frame : Frame) :
    (connection.reportFrame status frame).written = connection.written := rfl

@[simp] theorem written_write (job : Job) : (connection.write job).written = connection.written :=
  rfl

@[simp] theorem written_assembled (assembly : Assembly) :
    (connection.assembled assembly).written = connection.written := rfl

@[simp] theorem written_afterDecoding (decoded : Decoded) :
    (connection.afterDecoding decoded).written = connection.written := rfl

@[simp] theorem written_startUpgrade (opened : ConnectionState) :
    (connection.startUpgrade opened).written = connection.written := rfl

@[simp] theorem written_shutDown : connection.shutDown.written = connection.written := rfl

@[simp] theorem written_fail (state : ConnectionState) (error : Error) :
    (connection.fail state error).written = connection.written := rfl

@[simp] theorem written_finishClosing :
    connection.finishClosing.written = connection.written := rfl

@[simp] theorem written_failUpgrade (error : Error) :
    (connection.failUpgrade error).written = connection.written := by
  cases error with
  | upgrade cause => cases cause <;> simp [failUpgrade, report]
  | _ => simp [failUpgrade]

end recording

/-- The write that ends with the next step, if one does. -/
def attempted (connection : Connection) : List Attempt :=
  match connection.phase, connection.stream.writes with
  | .writing job, .working => [⟨job, none⟩]
  | .writing job, .broken detail => [⟨job, some (.io detail)⟩]
  | _, _ => []

theorem attempted_of_not_writing (quiet : ∀ job, connection.phase ≠ .writing job) :
    connection.attempted = [] := by
  unfold attempted
  split
  · next job writing _ => exact absurd writing (quiet job)
  · next job _ writing _ => exact absurd writing (quiet job)
  · rfl

/-! ## What a step does to the books -/

/-- Nobody waits for a connection that is over. -/
def Emptied (connection : Connection) : Prop :=
  connection.isOver = true → connection.outstanding = []

/-- How a step deals with the orders that were outstanding: some are carried out, some are dropped
because the connection ends, and all others stay. -/
structure Balances (connection : Connection) (attempts : List Attempt) (dropped : List Command)
    (next : Connection) : Prop where
  outstanding : connection.outstanding =
    attempts.filterMap Attempt.order? ++ next.outstanding ++ dropped
  answers : next.callers.answers.toList =
    connection.callers.answers.toList ++ attempts.filterMap Attempt.answer? ++
      dropped.map Command.notTaken
  sent : next.sentFrames = connection.sentFrames ++ attempts.flatMap connection.framesOnWire
  nextId : next.callers.nextId = connection.callers.nextId
  dropping : dropped ≠ [] → next.isOver = true
  emptied : connection.Emptied → next.Emptied

/-- Nothing happens to any order. -/
theorem Balances.rest (outstanding : next.outstanding = connection.outstanding)
    (answers : next.callers.answers = connection.callers.answers)
    (sent : next.sentFrames = connection.sentFrames)
    (nextId : next.callers.nextId = connection.callers.nextId)
    (finished : next.isOver = true → connection.isOver = true) :
    Balances connection [] [] next where
  outstanding := by simp [outstanding]
  answers := by simp [answers]
  sent := by simp [sent]
  nextId := nextId
  dropping := absurd rfl
  emptied emptied ended := outstanding.trans (emptied (finished ended))

/-- The connection goes on, with its callers as they were. -/
theorem Balances.goOn (outstanding : next.outstanding = connection.outstanding)
    (callers : next.callers = connection.callers)
    (sent : next.sentFrames = connection.sentFrames) (going : next.isOver = false) :
    Balances connection [] [] next :=
  .rest outstanding (by rw [callers]) sent (by rw [callers]) fun finished => by
    simp [going] at finished

/-- The connection ends, and drops all that was still outstanding. -/
theorem Balances.release (quiet : ∀ job, connection.phase ≠ .writing job)
    (finished : next.phase = .ended) (callers : next.callers = connection.callers.release)
    (sent : next.sentFrames = connection.sentFrames) :
    Balances connection [] connection.outstanding next := by
  have noneLeft : next.outstanding = [] := by
    simp [Connection.outstanding, underWay, finished, callers, Callers.release_eq]
  have all : connection.outstanding = connection.callers.queue ++ connection.callers.waiting := by
    rw [Connection.outstanding, underWay_of_not_writing quiet, List.nil_append]
  constructor
  · simp [noneLeft]
  · simp [callers, Callers.release_eq, all]
  · simp [sent]
  · rw [callers, Callers.release_eq]
  · simp [isOver, finished]
  · exact fun _ _ => noneLeft

/-- What the end of a write does to the callers: it answers the order if there is one, and releases
the others if it ends the connection. -/
theorem callers_settle (connection : Connection) (job : Job) (error : Option TransportError) :
    (connection.settle job error).callers =
      let answered := match job.order? with
        | some command => connection.callers.answer command.id (error.map .transport)
        | none => connection.callers
      if (connection.settle job error).isOver then answered.release else answered := by
  cases job with
  | close reason id =>
    cases id <;> cases error <;> simp [settle, report, answer, Job.order?, isOver]
  | command | keepAlive | pong | echo | refusal => simp [settle, report, answer, Job.order?, isOver]

theorem written_settle (connection : Connection) (job : Job) (error : Option TransportError) :
    (connection.settle job error).written = connection.written := by
  cases job with
  | close reason id => cases id <;> cases error <;> simp [settle, report, answer]
  | command | keepAlive | pong | echo | refusal => simp [settle, report, answer]

/-- No write follows directly on another one. -/
theorem settle_not_writing (connection : Connection) (job : Job) (error : Option TransportError) :
    ∀ other, (connection.settle job error).phase ≠ .writing other := by
  cases job with
  | close reason id => cases id <;> cases error <;> simp [settle]
  | command | keepAlive | pong | echo | refusal => simp [settle]

/-- A write ends. -/
theorem balances_settle {before : Connection} {job : Job} {error : Option TransportError}
    (writing : connection.phase = .writing job) (callers : before.callers = connection.callers)
    (sent : before.sentFrames = connection.sentFrames ++ connection.framesOnWire ⟨job, error⟩) :
    ∃ dropped, Balances connection [⟨job, error⟩] dropped (before.settle job error) := by
  have answering := callers_settle before job error
  have sentAll : (before.settle job error).sentFrames =
      connection.sentFrames ++ [⟨job, error⟩].flatMap connection.framesOnWire := by
    rw [sentFrames, written_settle, ← sentFrames, sent, List.flatMap_singleton]
  have held : connection.outstanding =
      job.order?.toList ++ (connection.callers.queue ++ connection.callers.waiting) := by
    rw [outstanding, underWay, writing]
  have left : (before.settle job error).outstanding =
      (before.settle job error).callers.queue ++ (before.settle job error).callers.waiting := by
    rw [outstanding, underWay_of_not_writing (settle_not_writing _ _ _), List.nil_append]
  rw [callers] at answering
  cases finished : (before.settle job error).isOver with
  | true =>
    rw [finished, if_pos rfl, Callers.release_eq] at answering
    refine ⟨connection.callers.queue ++ connection.callers.waiting, ?_, ?_, sentAll, ?_, ?_, ?_⟩
    · rw [held, left, answering]
      cases order : job.order? <;> simp [Attempt.order?, order]
    · rw [answering]
      cases order : job.order? <;>
        simp [Attempt.answer?, Attempt.order?, order, Callers.answer]
    · rw [answering]
      cases job.order? <;> rfl
    · exact fun _ => finished
    · intro _ _
      rw [left, answering]
      rfl
  | false =>
    rw [finished, if_neg Bool.false_ne_true] at answering
    refine ⟨[], ?_, ?_, sentAll, ?_, ?_, ?_⟩
    · rw [held, left, answering]
      cases order : job.order? <;> simp [Attempt.order?, order, Callers.answer]
    · rw [answering]
      cases order : job.order? <;>
        simp [Attempt.answer?, Attempt.order?, order, Callers.answer]
    · rw [answering]
      cases job.order? <;> rfl
    · exact absurd rfl
    · intro _ ended
      simp [finished] at ended

theorem UpgradeFails.not_writing {error : Error} (fails : connection.UpgradeFails error) :
    ∀ job, connection.phase ≠ .writing job := by
  intro job writing
  rcases fails.phase_cases with ⟨_, phase⟩ | ⟨_, _, _, phase⟩
  all_goals simp [phase] at writing

/-- The users run only when no write can end. -/
theorem attempted_of_stuck (stuck : connection.advance? = none) : connection.attempted = [] := by
  unfold attempted
  split
  · next job writing working => simp [advance?, writing, stepWriting, working] at stuck
  · next job detail writing broken => simp [advance?, writing, stepWriting, broken] at stuck
  · rfl

/-- A step that ends a write tells of it and of nothing else, and all others leave the book of
writes as it is. -/
theorem Advances.attempted_cases (advances : connection.Advances items next) :
    connection.attempted = [] ∨
      ∃ job error before, connection.phase = .writing job ∧
        connection.attempted = [⟨job, error⟩] ∧ items = settledItems job error.isNone ∧
        next = settle before job error := by
  cases advances with
  | cancelsDialing phase | dialingFails phase | hostUnfit phase | beginsSecuring phase
  | opensPlain phase | cancelsSecuring phase | securingFails phase | opensSecure phase
  | requests phase | readsHead phase | upgrades phase | stops phase | takesSend phase
  | takesClose phase | abandoned phase | pings phase | dropsFrame phase | peerAnswers phase
  | givesUpPeer phase | endsWait phase => exact .inl (attempted_of_not_writing (by simp [phase]))
  | refuses reads | collects reads | answersPing reads | hearsPong reads | peerCloses reads
  | receives reads | loses reads => exact .inl (attempted_of_not_writing (by simp [reads.running]))
  | upgradeFails fails => exact .inl (attempted_of_not_writing fails.not_writing)
  | keepsPart listening =>
    rcases listening with reads | ⟨deadline, waiting⟩
    · exact .inl (attempted_of_not_writing (by simp [reads.running]))
    · exact .inl (attempted_of_not_writing (by simp [waiting]))
  | @writes job writing working =>
    exact .inr ⟨job, none, _, writing, by simp [attempted, writing, working], rfl, rfl⟩
  | @failsToWrite job writing detail broken =>
    exact .inr ⟨job, some (.io detail), _, writing, by simp [attempted, writing, broken], rfl, rfl⟩
  | usersRun stuck => exact .inl (attempted_of_stuck stuck)

/-- No step loses or invents an order, an answer or a frame. -/
theorem Advances.balances (advances : connection.Advances items next) :
    ∃ dropped, Balances connection connection.attempted dropped next := by
  have ends (quiet : ∀ job, connection.phase ≠ .writing job) (finished : next.phase = .ended)
      (callers : next.callers = connection.callers.release)
      (written : next.written = connection.written) :
      ∃ dropped, Balances connection connection.attempted dropped next := by
    rw [attempted_of_not_writing quiet]
    exact ⟨_, .release quiet finished callers (by rw [sentFrames, written, ← sentFrames])⟩
  have goesOn (quiet : ∀ job, connection.phase ≠ .writing job)
      (underWay : next.underWay = []) (callers : next.callers = connection.callers)
      (written : next.written = connection.written) (going : next.isOver = false) :
      ∃ dropped, Balances connection connection.attempted dropped next := by
    rw [attempted_of_not_writing quiet]
    refine ⟨[], .goOn ?_ callers (by rw [sentFrames, written, ← sentFrames]) going⟩
    rw [outstanding, outstanding, callers, underWay, underWay_of_not_writing quiet]
  cases advances with
  | cancelsDialing phase | dialingFails phase | hostUnfit phase | cancelsSecuring phase
  | securingFails phase | stops phase | peerAnswers phase | givesUpPeer phase | endsWait phase =>
    exact ends (by simp [phase]) rfl (by simp) (by simp)
  | loses reads => exact ends (by simp [reads.running]) rfl (by simp) (by simp)
  | upgradeFails fails => exact ends fails.not_writing rfl (by simp) (by simp)
  | beginsSecuring phase | opensPlain phase | opensSecure phase =>
    exact goesOn (by simp [phase]) rfl (by simp) (by simp) rfl
  | readsHead phase | upgrades phase | abandoned phase | pings phase =>
    exact goesOn (by simp [phase]) rfl rfl rfl rfl
  | requests phase =>
    rw [attempted_of_not_writing (by simp [phase])]
    refine ⟨[], .goOn ?_ rfl ?_ rfl⟩
    · simp [outstanding, underWay, phase]
    · simp [sentFrames, Written.frame?]
  | refuses reads | answersPing reads | peerCloses reads =>
    exact goesOn (by simp [reads.running]) rfl (by simp) (by simp) rfl
  | collects reads | hearsPong reads | receives reads =>
    exact goesOn (by simp [reads.running]) (by simp [underWay, reads.running]) rfl rfl
      (by simp [isOver, reads.running])
  | dropsFrame waiting =>
    exact goesOn (by simp [waiting]) (by simp [underWay, waiting]) rfl rfl
      (by simp [isOver, waiting])
  | keepsPart listening =>
    rcases listening with reads | ⟨deadline, waiting⟩
    · exact goesOn (by simp [reads.running]) (by simp [underWay, reads.running]) rfl rfl
        (by simp [isOver, reads.running])
    · exact goesOn (by simp [waiting]) (by simp [underWay, waiting]) rfl rfl
        (by simp [isOver, waiting])
  | takesSend running going queued | takesClose running going queued =>
    rw [attempted_of_not_writing (by simp [running])]
    refine ⟨[], .rest ?_ rfl rfl rfl fun finished => nomatch finished⟩
    simp [outstanding, underWay, Job.order?, running, queued]
  | @writes job writing working =>
    rw [attempted, writing, working]
    exact balances_settle writing rfl (sentFrames_record ..)
  | @failsToWrite job writing detail broken =>
    rw [attempted, writing, broken]
    exact balances_settle writing rfl (List.append_nil _).symm
  | usersRun stuck =>
    rw [attempted_of_stuck stuck]
    refine ⟨[], .rest ?_ rfl rfl rfl id⟩
    simp [outstanding, underWay, Callers.run]

/-! ## What an input does to the books -/

/-- The call that an input makes, if it makes one. -/
def made? (connection : Connection) : Input → Option MadeCall
  | .call call => some ⟨call, connection.isConnected⟩
  | _ => none

/-- What an input adds to the books. -/
structure Adds (connection : Connection) (made : Option MadeCall) (next : Connection) : Prop where
  outstanding : next.outstanding =
    connection.outstanding ++ (made.bind (·.order? connection.callers.nextId)).toList
  answers : next.callers.answers.toList =
    connection.callers.answers.toList ++ (made.bind (·.answer? connection.callers.nextId)).toList
  written : next.written = connection.written
  nextId : next.callers.nextId = connection.callers.nextId + made.toList.length
  finished : next.isOver = connection.isOver

theorem Adds.nothing (outstanding : next.outstanding = connection.outstanding)
    (answers : next.callers.answers = connection.callers.answers)
    (written : next.written = connection.written)
    (nextId : next.callers.nextId = connection.callers.nextId)
    (finished : next.isOver = connection.isOver) : Adds connection none next := by
  constructor <;> simp [*]

theorem adds_call (connection : Connection) (call : Call) :
    Adds connection (some ⟨call, connection.isConnected⟩) (connection.apply (.call call)) := by
  obtain ⟨queued, answers, nextId⟩ := connection.callers.call_spec call connection.isConnected
  constructor
  · rw [outstanding, outstanding, List.append_assoc]
    exact congrArg (connection.underWay ++ ·) queued
  · exact answers
  · rfl
  · exact nextId
  · rfl

theorem adds_apply (connection : Connection) (input : Input) :
    Adds connection (connection.made? input) (connection.apply input) := by
  cases input with
  | call call => exact adds_call connection call
  | socket outcome =>
    dsimp only [apply]
    split
    · next dialing =>
      exact .nothing (by simp [outstanding, underWay, dialing]) rfl rfl rfl
        (by simp [isOver, dialing])
    · exact .nothing rfl rfl rfl rfl rfl
  | secure outcome =>
    dsimp only [apply]
    split
    · next securing =>
      exact .nothing (by simp [outstanding, underWay, securing]) rfl rfl rfl
        (by simp [isOver, securing])
    · exact .nothing rfl rfl rfl rfl rfl
  | arrive | finish | setWrites | takeSender | dropSender | dropSocket | advance | cancel =>
    exact .nothing rfl rfl rfl rfl rfl

/-! ## Runs with their books -/

/-- A run with its two books: the calls that were made, and the writes that ended. -/
inductive Records (start : Connection) :
    List Input → List MadeCall → List Attempt → Connection → Prop where
  | start : Records start [] [] [] start
  | step {inputs : List Input} {calls : List MadeCall} {attempts : List Attempt}
      {connection next : Connection} (records : Records start inputs calls attempts connection)
      (step : connection.step? = some next) :
      Records start inputs calls (attempts ++ connection.attempted) next
  | apply {inputs : List Input} {calls : List MadeCall} {attempts : List Attempt}
      {connection : Connection} (records : Records start inputs calls attempts connection)
      (input : Input) :
      Records start (inputs ++ [input]) (calls ++ (connection.made? input).toList) attempts
        (connection.apply input)

variable {start : Connection} {inputs : List Input} {calls : List MadeCall}
  {attempts : List Attempt}

theorem Records.reaches (records : Records start inputs calls attempts connection) :
    Reaches start inputs connection := by
  induction records with
  | start => exact .start
  | step records step ih => exact ih.step step
  | apply records input ih => exact ih.apply input

/-- The books of any run can be kept. -/
theorem Reaches.exists_records (reaches : Reaches start inputs connection) :
    ∃ calls attempts, Records start inputs calls attempts connection := by
  induction reaches with
  | start => exact ⟨_, _, .start⟩
  | step reaches step ih =>
    obtain ⟨calls, attempts, records⟩ := ih
    exact ⟨_, _, records.step step⟩
  | apply reaches input ih =>
    obtain ⟨calls, attempts, records⟩ := ih
    exact ⟨_, _, records.apply input⟩

/-- The books account for every order, every answer and every frame on the wire. -/
structure Audit (calls : List MadeCall) (attempts : List Attempt) (dropped : List Command)
    (connection : Connection) : Prop where
  orders : MadeCall.orders calls =
    attempts.filterMap Attempt.order? ++ connection.outstanding ++ dropped
  answers : connection.callers.answers.toList.Perm
    (MadeCall.answers calls ++ attempts.filterMap Attempt.answer? ++
      dropped.map Command.notTaken)
  sent : connection.sentFrames = attempts.flatMap connection.framesOnWire
  numbered : connection.callers.nextId = calls.length
  dropping : dropped ≠ [] → connection.isOver = true
  emptied : connection.Emptied

theorem isOver_iff : connection.isOver = true ↔ connection.phase.rank = 0 := by
  unfold isOver Phase.rank
  cases connection.phase with
  | writing job => cases final : job.isFinal <;> simp [final]
  | _ => simp

/-- What is over stays over. -/
theorem isOver_of_step (step : connection.step? = some next) (finished : connection.isOver = true) :
    next.isOver = true := by
  rw [isOver_iff] at finished ⊢
  exact Nat.le_zero.mp (finished ▸ rank_le_of_step step)

/-- No call is accepted during the upgrade, nor once the connection is over. -/
theorem Fits.not_connected (fits : connection.Fits)
    (outside : connection.phase.rank = 0 ∨ 4 ≤ connection.phase.rank) :
    connection.isConnected = false := by
  unfold Fits at fits
  rw [isConnected, decide_eq_false_iff_not]
  intro connected
  rw [connected] at fits
  cases phase : connection.phase with
  | connected => simp [phase, Phase.rank] at outside
  | writing job => cases final : job.isFinal <;> simp [phase, Phase.rank, final] at outside
  | _ =>
    rw [phase] at fits
    cases fits

theorem Audit.step {dropped : List Command} (audit : Audit calls attempts dropped connection)
    (step : connection.step? = some next) :
    ∃ gone, Audit calls (attempts ++ connection.attempted) (gone ++ dropped) next := by
  obtain ⟨items, advances⟩ := advances_of_step? step
  obtain ⟨gone, balances⟩ := advances.balances
  have options : next.options = connection.options :=
    congrArg Surroundings.options advances.surroundings_eq
  refine ⟨gone, ?_, ?_, ?_, ?_, ?_, balances.emptied audit.emptied⟩
  · rw [audit.orders, balances.outstanding, List.filterMap_append]
    simp only [List.append_assoc]
  · rw [balances.answers]
    have before := List.perm_iff_count.mp audit.answers
    refine List.perm_iff_count.mpr fun answer => ?_
    have same := before answer
    simp only [List.count_append, List.filterMap_append, List.map_append] at same ⊢
    omega
  · rw [balances.sent, audit.sent, framesOnWire_congr options, List.flatMap_append]
  · rw [balances.nextId, audit.numbered]
  · intro some
    by_cases none : gone = []
    · exact isOver_of_step step (audit.dropping (by simpa [none] using some))
    · exact balances.dropping none

/-- A call places no order unless the connection is connected. -/
theorem order?_of_not_connected (refused : connection.isConnected = false) {input : Input}
    {made : MadeCall} (makes : connection.made? input = some made) (id : Nat) :
    made.order? id = none := by
  have unmet : made.connected = false := by
    cases input <;> cases makes
    exact refused
  refine Option.eq_none_iff_forall_ne_some.mpr fun command placed => ?_
  rw [(MadeCall.order?_eq_some_iff.mp placed).2.1] at unmet
  cases unmet

theorem Audit.apply {dropped : List Command} (audit : Audit calls attempts dropped connection)
    (fits : connection.Fits) (input : Input) :
    Audit (calls ++ (connection.made? input).toList) attempts dropped
      (connection.apply input) := by
  have adds := adds_apply connection input
  have refused (finished : connection.isOver = true) : connection.isConnected = false :=
    fits.not_connected (.inl (isOver_iff.mp finished))
  have placing := adds.outstanding
  have answering := adds.answers
  rw [audit.numbered] at placing answering
  constructor
  · rw [placing]
    cases makes : connection.made? input with
    | none => simp [audit.orders]
    | some made =>
      rw [Option.toList_some, MadeCall.orders_append, audit.orders]
      cases placed : made.order? calls.length with
      | none => simp [placed]
      | some command =>
        have noneDropped : dropped = [] := by
          by_contra some
          rw [order?_of_not_connected (refused (audit.dropping some)) makes] at placed
          cases placed
        simp [placed, noneDropped]
  · rw [answering]
    have before := List.perm_iff_count.mp audit.answers
    refine List.perm_iff_count.mpr fun answer => ?_
    have same := before answer
    cases connection.made? input with
    | none => simpa using same
    | some made =>
      simp only [Option.toList_some, MadeCall.answers_append, List.count_append,
        Option.bind_some] at same ⊢
      omega
  · rw [framesOnWire_congr (options_apply ..), ← audit.sent, sentFrames, adds.written, ← sentFrames]
  · rw [adds.nextId, audit.numbered, List.length_append]
  · rw [adds.finished]
    exact audit.dropping
  · intro finished
    rw [adds.finished] at finished
    rw [placing, audit.emptied finished, List.nil_append]
    cases makes : connection.made? input with
    | none => rfl
    | some made =>
      rw [Option.bind_some, order?_of_not_connected (refused finished) makes]
      rfl

theorem callers_attach (url : Url) (options : Options) (nonce : Bytes) (keys : Nat → MaskKey) :
    (attach url options nonce keys).callers = {} := by
  rw [attach, callers_startUpgrade]
  rfl

theorem written_attach (url : Url) (options : Options) (nonce : Bytes) (keys : Nat → MaskKey) :
    (attach url options nonce keys).written = #[] := by
  rw [attach, written_startUpgrade]
  rfl

theorem fits_attach (url : Url) (options : Options) (nonce : Bytes) (keys : Nat → MaskKey) :
    (attach url options nonce keys).Fits := rfl

theorem audit_attach (url : Url) (options : Options) (nonce : Bytes) (keys : Nat → MaskKey) :
    Audit [] [] [] (attach url options nonce keys) := by
  have callers := callers_attach url options nonce keys
  have outstanding : (attach url options nonce keys).outstanding = [] := by
    rw [Connection.outstanding, callers]
    rfl
  constructor
  · rw [outstanding]
    rfl
  · rw [callers]
    rfl
  · rw [sentFrames, written_attach]
    rfl
  · rw [callers]
    rfl
  · exact absurd rfl
  · exact fun _ => outstanding

/-- In every run over an open stream the books account for everything. -/
theorem Records.audit {url : Url} {options : Options} {nonce : Bytes} {keys : Nat → MaskKey}
    (records : Records (attach url options nonce keys) inputs calls attempts connection) :
    ∃ dropped, Audit calls attempts dropped connection := by
  induction records with
  | start => exact ⟨[], audit_attach ..⟩
  | step records step ih =>
    obtain ⟨dropped, audit⟩ := ih
    obtain ⟨gone, after⟩ := audit.step step
    exact ⟨_, after⟩
  | apply records input ih =>
    obtain ⟨dropped, audit⟩ := ih
    have fits := records.reaches.fits (fits_attach ..)
    exact ⟨dropped, audit.apply fits input⟩

/-! ## The book of calls -/

/-- The calls among the inputs. -/
def callsIn (inputs : List Input) : List Call :=
  inputs.filterMap fun
    | .call call => some call
    | _ => none

theorem Records.map_call (records : Records start inputs calls attempts connection) :
    calls.map MadeCall.call = callsIn inputs := by
  induction records with
  | start => rfl
  | step records step ih => exact ih
  | apply records input ih =>
    rw [List.map_append, ih, callsIn, callsIn, List.filterMap_append]
    cases input <;> rfl

/-! ## The book of writes -/

/-- No frames go out any more after a close frame of the client. -/
theorem rank_settle_of_final (connection : Connection) {job : Job} (final : job.isFinal = true)
    (error : Option TransportError) : (connection.settle job error).phase.rank ≤ 1 := by
  cases job with
  | close reason id => cases id <;> cases error <;> simp [settle, Phase.rank]
  | echo | refusal => simp [settle, Phase.rank]
  | command | keepAlive | pong => cases final

theorem attempted_of_rank_le (closing : connection.phase.rank ≤ 1) : connection.attempted = [] := by
  refine attempted_of_not_writing fun job writing => ?_
  rw [writing, Phase.rank] at closing
  split at closing <;> omega

/-- The writes that close the connection are the last ones. -/
structure EndsWithFinal (attempts : List Attempt) (connection : Connection) : Prop where
  last : attempts.Pairwise fun earlier _ => earlier.job.isFinal = false
  closing : ∀ attempt ∈ attempts, attempt.job.isFinal = true → connection.phase.rank ≤ 1

theorem Records.endsWithFinal (records : Records start inputs calls attempts connection) :
    EndsWithFinal attempts connection := by
  induction records with
  | start => exact ⟨.nil, fun _ member => absurd member List.not_mem_nil⟩
  | @step inputs calls attempts connection next records step ih =>
    have lower := rank_le_of_step step
    obtain ⟨items, advances⟩ := advances_of_step? step
    rcases advances.attempted_cases with none | ⟨job, error, before, writing, one, -, rfl⟩
    · rw [none, List.append_nil]
      refine ⟨ih.last, fun attempt member final => ?_⟩
      exact Nat.le_trans lower (ih.closing attempt member final)
    · have notYet : ∀ attempt ∈ attempts, attempt.job.isFinal = false := by
        intro attempt member
        by_contra final
        have quiet := attempted_of_rank_le (ih.closing attempt member (by simpa using final))
        rw [quiet] at one
        cases one
      rw [one]
      refine ⟨?_, ?_⟩
      · rw [List.pairwise_append]
        refine ⟨ih.last, List.pairwise_singleton .., fun earlier member _ _ => ?_⟩
        exact notYet earlier member
      · intro attempt member final
        rw [List.mem_append, List.mem_singleton] at member
        rcases member with earlier | rfl
        · rw [notYet attempt earlier] at final
          cases final
        · exact rank_settle_of_final before final error
  | apply records input ih =>
    refine ⟨ih.last, fun attempt member final => ?_⟩
    rw [(learns_apply ..).rank_eq]
    exact ih.closing attempt member final

end Connection

end WebSocket
