import WebSocket.Proofs.Connection.Ledger
import WebSocket.Proofs.Connection.Timely
import WebSocket.Proofs.Frame.Pieces

/-! # Bytes that arrive early or late

Bytes that arrive only join the end of the inbox (`behind`). As long as a connection has enough to
go on with, it does the same whether or not they are there already (`step?_behind`), and afterwards
they are still behind what is left. What matters to those who look at a connection from outside is
`seen`, which does not depend on bytes that were never read.
-/

namespace WebSocket.Connection

variable {connection next : Connection}

/-! ## What is seen -/

/-- What can be seen of a connection from outside. -/
structure Seen where
  items : Array StreamItem
  written : Array Written
  state : ConnectionState
  states : Array ConnectionState
  subprotocol : Option String
  isShut : Bool
  isOver : Bool
  pending : List Nat
  answers : Array Answer

def seen (connection : Connection) : Seen where
  items := connection.items
  written := connection.written
  state := connection.state
  states := connection.states
  subprotocol := connection.subprotocol
  isShut := connection.stream.isShut
  isOver := connection.isOver
  pending := connection.pending
  answers := connection.callers.answers

/-- More bytes behind those in the inbox. -/
def behind (connection : Connection) (more : Bytes) : Connection :=
  connection.withInbox (connection.stream.inbox ++ more)

@[simp] theorem seen_behind (connection : Connection) (more : Bytes) :
    (connection.behind more).seen = connection.seen := rfl

theorem behind_behind (connection : Connection) (first second : Bytes) :
    (connection.behind first).behind second = connection.behind (first ++ second) := by
  simp only [behind, withInbox, List.append_assoc]

/-- Unless reading has ended, bytes that arrive join the inbox. -/
theorem apply_arrive_of_open (openEnded : connection.stream.ending = none) (more : Bytes) :
    connection.apply (.arrive more) = connection.behind more := by
  simp [apply, ByteStream.arrive, openEnded, behind, withInbox]

theorem apply_arrive_of_ended (ended : connection.stream.ending.isSome = true) (more : Bytes) :
    connection.apply (.arrive more) = connection := by
  simp [apply, ByteStream.arrive, ended]

/-! ## Steps that need nothing more -/

/-- Whether what the connection does next does not depend on bytes that are still to arrive: it is
not about to read, or what is there is enough for the decoder to give something. -/
def Decided (connection : Connection) : Prop :=
  match connection.phase with
  | .awaitingHead .. => connection.cancelled = true
  | .connected => connection.Reads → connection.decodeNext.outcome ≠ .ok none
  | .awaitingClose _ => connection.decodeNext.outcome ≠ .ok none
  | .dialing .. | .securing _ | .requesting _ | .writing _ | .ended => True

section behind

variable (connection) (more : Bytes)

theorem failUpgrade_behind (error : Error) :
    (connection.behind more).failUpgrade error = (connection.failUpgrade error).behind more := by
  cases error with
  | upgrade cause => cases cause <;> rfl
  | setup | transport | violation | call => rfl

theorem settle_behind (job : Job) (error : Option TransportError) :
    (connection.behind more).settle job error = (connection.settle job error).behind more := by
  cases job with
  | close reason id => cases id <;> cases error <;> rfl
  | command | keepAlive | pong | echo | refusal => rfl

theorem deliver_behind (frame : Frame) :
    (connection.behind more).deliver frame = (connection.deliver frame).behind more := by
  unfold deliver
  rw [show (connection.behind more).options = connection.options from rfl]
  split
  · rfl
  · rfl
  · rfl
  · rfl
  · split <;> rfl

theorem receive_behind (frame : Frame) :
    (connection.behind more).receive frame = (connection.receive frame).behind more := by
  unfold receive
  rw [show (connection.behind more).assembly = connection.assembly from rfl]
  split
  · rfl
  · split
    · rfl
    · rfl
    · next message after _ =>
      exact deliver_behind { connection with assembly := after } more message

end behind

/-- A call of the decoder that gives something gives the same with more bytes behind. -/
theorem decodeNext_behind (given : connection.decodeNext.outcome ≠ .ok none) (more : Bytes) :
    (connection.behind more).decodeNext = connection.decodeNext.followedBy more :=
  Decoder.decode_append more given

theorem stepReading_behind (given : connection.decodeNext.outcome ≠ .ok none) (more : Bytes) :
    (connection.behind more).stepReading = connection.stepReading.map (·.behind more) := by
  have same := decodeNext_behind given more
  unfold stepReading
  rw [same, show (connection.decodeNext.followedBy more).outcome = connection.decodeNext.outcome
    from rfl]
  cases outcome : connection.decodeNext.outcome with
  | error cause => rfl
  | ok frame =>
    cases frame with
    | none => exact absurd outcome given
    | some frame =>
      exact congrArg some (receive_behind (connection.afterDecoding connection.decodeNext) more _)

theorem stepConnected_behind (running : connection.phase = .connected)
    (given : connection.Reads → connection.decodeNext.outcome ≠ .ok none) (more : Bytes) :
    (connection.behind more).stepConnected = connection.stepConnected.map (·.behind more) := by
  unfold stepConnected
  rw [show (connection.behind more).cancelled = connection.cancelled from rfl,
    show (connection.behind more).callers = connection.callers from rfl,
    show (connection.behind more).keepAlive = connection.keepAlive from rfl,
    show (connection.behind more).now = connection.now from rfl]
  split
  · rfl
  · next going =>
    rw [Bool.not_eq_true] at going
    split
    · next command queue queued =>
      unfold obey
      cases command.order <;> rfl
    · next noOrder =>
      split
      · rfl
      · next used =>
        rw [Bool.not_eq_true] at used
        split
        · next schedule scheduled =>
          split
          · rfl
          · next early =>
            rw [Bool.not_eq_true] at early
            exact stepReading_behind
              (given ⟨running, going, noOrder, used, by simpa [scheduled] using early⟩) more
        · next unscheduled =>
          exact stepReading_behind
            (given ⟨running, going, noOrder, used, by simp [unscheduled]⟩) more

theorem stepAwaitingClose_behind (given : connection.decodeNext.outcome ≠ .ok none)
    (deadline : Nat) (more : Bytes) :
    (connection.behind more).stepAwaitingClose deadline =
      (connection.stepAwaitingClose deadline).map (·.behind more) := by
  have same := decodeNext_behind given more
  unfold stepAwaitingClose
  rw [same, show (connection.decodeNext.followedBy more).outcome = connection.decodeNext.outcome
    from rfl]
  cases outcome : connection.decodeNext.outcome with
  | error cause => rfl
  | ok frame =>
    cases frame with
    | none => exact absurd outcome given
    | some frame =>
      dsimp only
      split <;> rfl

theorem stepDialing_behind (secure : Bool) (deadline : Nat)
    (outcome : Option (Except TransportError Unit)) (more : Bytes) :
    (connection.behind more).stepDialing secure deadline outcome =
      (connection.stepDialing secure deadline outcome).map (·.behind more) := by
  unfold stepDialing
  rw [show (connection.behind more).cancelled = connection.cancelled from rfl,
    show (connection.behind more).now = connection.now from rfl,
    show (connection.behind more).url = connection.url from rfl]
  split
  · rfl
  · split
    · rfl
    · dsimp only
      split
      · split <;> rfl
      · rfl
    · split <;> rfl

theorem stepSecuring_behind (outcome : Option (Except TransportError Unit)) (more : Bytes) :
    (connection.behind more).stepSecuring outcome =
      (connection.stepSecuring outcome).map (·.behind more) := by
  unfold stepSecuring
  rw [show (connection.behind more).cancelled = connection.cancelled from rfl]
  split
  · rfl
  · rcases outcome with _ | _ | _ <;> rfl

theorem stepRequesting_behind (deadline : Nat) (more : Bytes) :
    (connection.behind more).stepRequesting deadline =
      (connection.stepRequesting deadline).map (·.behind more) := by
  unfold stepRequesting
  simp only [failUpgrade_behind]
  rw [show (connection.behind more).cancelled = connection.cancelled from rfl,
    show (connection.behind more).now = connection.now from rfl,
    show (connection.behind more).url = connection.url from rfl,
    show (connection.behind more).options = connection.options from rfl,
    show (connection.behind more).nonce = connection.nonce from rfl,
    show (connection.behind more).stream.writes = connection.stream.writes from rfl]
  split
  · rfl
  · split
    · rfl
    · split
      · rfl
      · rfl
      · split <;> rfl

theorem stepWriting_behind (job : Job) (more : Bytes) :
    (connection.behind more).stepWriting job =
      (connection.stepWriting job).map (·.behind more) := by
  unfold stepWriting
  rw [show (connection.behind more).stream.writes = connection.stream.writes from rfl]
  split
  · exact congrArg some (settle_behind (connection.record (connection.framesOf job)) more job none)
  · exact congrArg some (settle_behind connection more job _)
  · rfl

/-- A connection that was told to stop does not read the response head any more. -/
theorem stepAwaitingHead_behind (cancelled : connection.cancelled = true)
    (request : UpgradeRequest) (deadline : Nat) (reader : Http.HeadReader) (more : Bytes) :
    (connection.behind more).stepAwaitingHead request deadline reader =
      (connection.stepAwaitingHead request deadline reader).map (·.behind more) := by
  unfold stepAwaitingHead
  rw [show (connection.behind more).cancelled = connection.cancelled from rfl, if_pos cancelled,
    if_pos cancelled, failUpgrade_behind]
  rfl

theorem advance?_behind (decided : connection.Decided) (more : Bytes) :
    (connection.behind more).advance? = connection.advance?.map (·.behind more) := by
  unfold Decided at decided
  unfold advance?
  rw [show (connection.behind more).phase = connection.phase from rfl]
  cases phase : connection.phase with
  | dialing => exact stepDialing_behind ..
  | securing => exact stepSecuring_behind ..
  | requesting => exact stepRequesting_behind ..
  | awaitingHead =>
    rw [phase] at decided
    exact stepAwaitingHead_behind decided ..
  | connected =>
    rw [phase] at decided
    exact stepConnected_behind phase decided more
  | writing => exact stepWriting_behind ..
  | awaitingClose =>
    rw [phase] at decided
    exact stepAwaitingClose_behind decided ..
  | ended => rfl

/-- A step that is decided is the same with more bytes behind, which are left for later. -/
theorem step?_behind (decided : connection.Decided) (more : Bytes) :
    (connection.behind more).step? = connection.step?.map (·.behind more) := by
  have same := advance?_behind decided more
  unfold step?
  rw [same]
  cases connection.advance? with
  | some next => rfl
  | none =>
    rw [Option.map_none, show (connection.behind more).callers = connection.callers from rfl]
    dsimp only
    split <;> rfl

/-! ## The end -/

theorem phase_of_isOver (finished : connection.isOver = true) : connection.phase = .ended := by
  unfold isOver at finished
  split at finished
  · next ended => exact ended
  · cases finished

/-- The users change nothing that is seen. -/
theorem seen_run_users (connection : Connection) :
    { connection with callers := connection.callers.run }.seen = connection.seen := by
  have orders : ({ connection with callers := connection.callers.run } : Connection).outstanding =
      connection.outstanding := by
    simp [outstanding, underWay, Callers.run]
  simp only [seen, pending_eq, orders]
  rfl

/-- After the end nothing that is seen changes. -/
theorem seen_run_of_ended (ended : connection.phase = .ended) :
    connection.run.seen = connection.seen := by
  fun_induction run connection with
  | case1 => rfl
  | case2 connection next step ih =>
    obtain rfl := eq_of_step_ended ended step
    rw [ih ended, seen_run_users]

/-- Nor do bytes that arrive. -/
theorem seen_play_arrive_of_ended (ended : connection.phase = .ended) (more : Bytes) :
    (connection.play [.arrive more]).seen = connection.seen := by
  have still : (connection.apply (.arrive more)).phase = .ended := ended
  rw [play, List.foldl_cons, List.foldl_nil, seen_run_of_ended still]
  cases reading : connection.stream.ending with
  | none => rw [apply_arrive_of_open reading, seen_behind]
  | some ending => rw [apply_arrive_of_ended (by rw [reading]; rfl)]

end WebSocket.Connection
