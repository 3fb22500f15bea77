import WebSocket.Connection.Script
import WebSocket.Proofs.Connection.Rules

/-! # Runs of a connection

`Reaches` collects the states that any interleaving of steps and inputs leads to, among them all
that a script passes through (`reaches_playAll`). What a step puts on the event stream is the label
of its rule, as long as someone holds the stream (`Advances.tells`).
-/

namespace WebSocket

/-- The states of a connection in a phase. -/
def Phase.admits : Phase → ConnectionState → Prop
  | dialing .., state => state = .connectingSocket
  | securing _, state => state = .connectingStream
  | requesting _, state | awaitingHead .., state => state = .upgrading
  | connected, state | writing (.command ..), state | writing .keepAlive, state
  | writing (.pong _), state | writing (.refusal _), state => state = .connected
  | writing (.close ..), state | writing (.echo _), state | awaitingClose _, state =>
    state = .disconnecting
  | ended, state => state.isTerminal = true

/-- One phase comes from another by news of the socket. -/
inductive Phase.Learns : Phase → Phase → Prop where
  | nothing (phase : Phase) : Learns phase phase
  | socket (secure : Bool) (deadline : Nat) (before after : Option (Except TransportError Unit)) :
    Learns (.dialing secure deadline before) (.dialing secure deadline after)
  | secure (before after : Option (Except TransportError Unit)) :
    Learns (.securing before) (.securing after)

theorem Phase.Learns.admits_eq {before after : Phase} (learns : before.Learns after) :
    after.admits = before.admits := by
  cases learns <;> rfl

namespace Connection

open StreamItem (entered framed)

variable {connection next : Connection} {items : List StreamItem}

/-! ## What a step leaves on the event stream -/

/-- One connection comes from another by putting items on the event stream, as far as someone holds
it, and by things that do not concern the event stream. -/
structure Tells (connection : Connection) (items : List StreamItem) (next : Connection) : Prop where
  held : next.callers.socketHeld = connection.callers.socketHeld
  items : next.items.toList =
    connection.items.toList ++ if connection.callers.socketHeld then items else []

namespace Tells

variable {before middle : Connection} {first second : List StreamItem}

theorem quiet (held : next.callers.socketHeld = connection.callers.socketHeld)
    (same : next.items = connection.items) : Tells connection [] next :=
  ⟨held, by simp [same]⟩

theorem trans (early : Tells connection first middle) (late : Tells middle second next) :
    Tells connection (first ++ second) next := by
  refine ⟨late.held.trans early.held, ?_⟩
  rw [late.items, early.items, early.held, List.append_assoc]
  split <;> simp

/-- What comes first does not concern the event stream. -/
theorem after (tells : Tells before items next)
    (held : before.callers.socketHeld = connection.callers.socketHeld)
    (same : before.items = connection.items) : Tells connection items next :=
  (quiet held same).trans tells

/-- What comes last does not concern the event stream. -/
theorem andThen (tells : Tells connection items middle)
    (held : next.callers.socketHeld = middle.callers.socketHeld)
    (same : next.items = middle.items) : Tells connection items next := by
  have both := tells.trans (quiet held same)
  rwa [List.append_nil] at both

theorem emit (connection : Connection) (item : StreamItem) :
    Tells connection [item] (connection.emit item) := by
  refine ⟨rfl, ?_⟩
  unfold Connection.emit
  dsimp only
  split <;> simp

theorem enter (connection : Connection) (state : ConnectionState) :
    Tells connection [entered state] (connection.enter state) :=
  (emit _ _).after rfl rfl

theorem socketHeld_release (callers : Callers) :
    callers.release.socketHeld = callers.socketHeld := by
  unfold Callers.release
  suffices ∀ (commands : List Command) (before : Callers),
      (commands.foldl (fun callers command =>
        callers.answer command.id (some (.call .notConnected))) before).socketHeld =
        before.socketHeld from this ..
  intro commands
  induction commands with
  | nil => exact fun _ => rfl
  | cons command commands ih => exact fun before => ih (before.answer ..)

theorem finish (connection : Connection) (state : ConnectionState) :
    Tells connection [entered state] (connection.finish state) :=
  (enter connection state).andThen (socketHeld_release _) rfl

theorem finishClosing (connection : Connection) :
    Tells connection [entered .disconnected] connection.finishClosing :=
  (finish connection.shutDown .disconnected).after rfl rfl

theorem fail (connection : Connection) (state : ConnectionState) (error : Error) :
    Tells connection [entered state, .failure error] (connection.fail state error) :=
  ((enter connection state).trans (emit _ _)).andThen (socketHeld_release _) rfl

theorem failUpgrade (connection : Connection) (error : Error) :
    Tells connection (upgradeReport error ++ [entered .aborted, .failure error])
      (connection.failUpgrade error) := by
  have failing (reported : Connection) :
      Tells reported [entered .aborted, .failure error] (reported.shutDown.fail .aborted error) :=
    (fail reported.shutDown .aborted error).after rfl rfl
  cases error with
  | upgrade cause => cases cause <;> exact (emit connection _).trans (failing _)
  | setup | transport | violation | call => exact (quiet rfl rfl).trans (failing connection)

theorem startUpgrade (connection : Connection) (opened : ConnectionState) :
    Tells connection [entered opened, entered .upgrading] (connection.startUpgrade opened) :=
  ((enter connection opened).trans (enter _ _)).andThen rfl rfl

theorem beginExchange (connection : Connection) (subprotocol : Option String) (rest : Bytes) :
    Tells connection [entered .upgraded, entered .connected]
      (connection.beginExchange subprotocol rest) :=
  let before := { connection.withInbox rest with subprotocol }
  have entering := (enter before .upgraded).trans (enter _ .connected)
  andThen (after entering rfl rfl) rfl rfl

theorem settle (connection : Connection) (job : Job) (error : Option TransportError) :
    Tells connection (settledItems job error.isNone) (connection.settle job error) := by
  cases job with
  | command id frames => cases error <;> exact (emit connection _).andThen rfl rfl
  | keepAlive => cases error <;> exact (emit connection _).andThen rfl rfl
  | pong frame => cases error <;> exact (emit connection _).andThen rfl rfl
  | close reason id =>
    cases error with
    | none => cases id <;> exact quiet rfl rfl
    | some cause =>
      cases id with
      | none => exact (emit connection _).trans (finishClosing _)
      | some id =>
        have answered : Tells connection [.status .sendFailed]
            ((connection.report .sendFailed).answer id (some (.transport cause))) :=
          (emit connection _).andThen rfl rfl
        exact answered.trans (finishClosing _)
  | echo frame => exact finishClosing connection
  | refusal cause => exact (fail connection.shutDown .aborted _).after rfl rfl

end Tells

/-- The label of a rule is what it puts on the event stream. -/
theorem Advances.tells (advances : connection.Advances items next) :
    Tells connection items next := by
  cases advances with
  | cancelsDialing => exact .fail ..
  | dialingFails => exact .fail ..
  | hostUnfit => exact ((Tells.enter ..).trans (.enter ..)).trans (.fail ..)
  | beginsSecuring => exact ((Tells.enter ..).trans (.enter ..)).andThen rfl rfl
  | opensPlain => exact ((Tells.enter ..).trans (.enter ..)).trans (.startUpgrade ..)
  | cancelsSecuring => exact .fail ..
  | securingFails => exact .fail ..
  | opensSecure => exact .startUpgrade ..
  | upgradeFails => exact .failUpgrade ..
  | requests => exact .quiet rfl rfl
  | readsHead => exact .quiet rfl rfl
  | upgrades => exact .beginExchange ..
  | stops => exact (Tells.fail connection.shutDown ..).after rfl rfl
  | takesSend => exact .quiet rfl rfl
  | @takesClose running going id reason queue queued =>
    let taken := { connection with callers := { connection.callers with queue } }
    exact .andThen (.after (.enter taken _) rfl rfl) rfl rfl
  | abandoned => exact (Tells.enter connection _).andThen rfl rfl
  | pings => exact .quiet rfl rfl
  | refuses => exact .quiet rfl rfl
  | collects => exact .quiet rfl rfl
  | answersPing => exact .andThen (.after (.emit (connection.assembled _) _) rfl rfl) rfl rfl
  | hearsPong => exact (Tells.emit (connection.assembled _) _).after rfl rfl
  | @peerCloses reads frame message takes assembly =>
    have closed : Tells (connection.assembled assembly)
        [framed .closeReceived message, entered .disconnecting] _ :=
      (Tells.emit _ _).trans (.enter _ _)
    exact .andThen (.after closed rfl rfl) rfl rfl
  | receives => exact (Tells.emit (connection.assembled _) _).after rfl rfl
  | loses => exact .fail ..
  | keepsPart => exact .quiet rfl rfl
  | @writes job => exact (Tells.settle (connection.record _) job none).after rfl rfl
  | @failsToWrite job => exact .settle connection job (some _)
  | dropsFrame => exact .quiet rfl rfl
  | peerAnswers =>
    exact ((Tells.emit (connection.afterDecoding _) _).trans (.finishClosing _)).after rfl rfl
  | givesUpPeer => exact (Tells.finishClosing (connection.afterDecoding _)).after rfl rfl
  | endsWait => exact .finishClosing connection
  | usersRun => exact .quiet rfl rfl

/-! ## What no step changes -/

/-- What a connection finds and leaves as it is: what it was set up with, the time, whether it was
told to stop, how its stream ends and what becomes of writes. -/
structure Surroundings where
  url : Url
  options : Options
  nonce : Bytes
  keys : Nat → MaskKey
  now : Nat
  cancelled : Bool
  ending : Option StreamEnd
  writes : WriteMode

def surroundings (connection : Connection) : Surroundings where
  url := connection.url
  options := connection.options
  nonce := connection.nonce
  keys := connection.keys
  now := connection.now
  cancelled := connection.cancelled
  ending := connection.stream.ending
  writes := connection.stream.writes

section surroundings

variable (connection : Connection)

@[simp] theorem surroundings_emit (item : StreamItem) :
    (connection.emit item).surroundings = connection.surroundings := rfl

@[simp] theorem surroundings_enter (state : ConnectionState) :
    (connection.enter state).surroundings = connection.surroundings := rfl

@[simp] theorem surroundings_fail (state : ConnectionState) (error : Error) :
    (connection.fail state error).surroundings = connection.surroundings := rfl

@[simp] theorem surroundings_finishClosing :
    connection.finishClosing.surroundings = connection.surroundings := rfl

@[simp] theorem surroundings_shutDown :
    connection.shutDown.surroundings = connection.surroundings := rfl

@[simp] theorem surroundings_record (frames : List Frame) :
    (connection.record frames).surroundings = connection.surroundings := rfl

@[simp] theorem surroundings_write (job : Job) :
    (connection.write job).surroundings = connection.surroundings := rfl

@[simp] theorem surroundings_answer (id : Nat) (error : Option Error) :
    (connection.answer id error).surroundings = connection.surroundings := rfl

@[simp] theorem surroundings_startUpgrade (opened : ConnectionState) :
    (connection.startUpgrade opened).surroundings = connection.surroundings := rfl

@[simp] theorem surroundings_afterDecoding (decoded : Decoded) :
    (connection.afterDecoding decoded).surroundings = connection.surroundings := rfl

@[simp] theorem surroundings_assembled (assembly : Assembly) :
    (connection.assembled assembly).surroundings = connection.surroundings := rfl

@[simp] theorem surroundings_failUpgrade (error : Error) :
    (connection.failUpgrade error).surroundings = connection.surroundings := by
  cases error with
  | upgrade cause => cases cause <;> simp [failUpgrade, report]
  | _ => simp [failUpgrade]

@[simp] theorem surroundings_settle (job : Job) (error : Option TransportError) :
    (connection.settle job error).surroundings = connection.surroundings := by
  cases job with
  | close reason id =>
    cases error with
    | none => cases id <;> rfl
    | some cause => cases id <;> simp [settle, report]
  | command | keepAlive | pong => rfl
  | echo | refusal => simp [settle]

end surroundings

theorem Advances.surroundings_eq (advances : connection.Advances items next) :
    next.surroundings = connection.surroundings := by
  cases advances with
  | requests | readsHead | beginsSecuring | upgrades | takesSend | takesClose | pings | collects
  | keepsPart | dropsFrame | usersRun => rfl
  | _ => simp [reportFrame]

/-! ## Phases and states -/

/-- No step leads back to an earlier phase. -/
theorem rank_le_of_step (step : connection.step? = some next) :
    next.phase.rank ≤ connection.phase.rank := by
  rcases step?_pays step with later | ⟨same, -⟩
  · exact Nat.le_of_lt later
  · exact Nat.le_of_eq same

/-- The state goes with the phase. -/
def Fits (connection : Connection) : Prop :=
  connection.phase.admits connection.state

theorem fits_fail (connection : Connection) {state : ConnectionState} (error : Error)
    (terminal : state.isTerminal = true) : (connection.fail state error).Fits := terminal

theorem fits_failUpgrade (connection : Connection) (error : Error) :
    (connection.failUpgrade error).Fits := fits_fail _ _ rfl

theorem fits_finishClosing (connection : Connection) : connection.finishClosing.Fits := rfl

theorem fits_settle {job : Job} (connection : Connection) (error : Option TransportError)
    (admitted : (Phase.writing job).admits connection.state) :
    (connection.settle job error).Fits := by
  cases job with
  | command id frames => exact admitted
  | keepAlive => exact admitted
  | pong frame => exact admitted
  | close reason id =>
    cases error with
    | none => cases id <;> exact admitted
    | some cause => exact fits_finishClosing _
  | echo frame => exact fits_finishClosing _
  | refusal cause => exact fits_fail _ _ rfl

/-- Whatever a connection does, its state goes with its phase. -/
theorem Advances.fits (advances : connection.Advances items next) (fits : connection.Fits) :
    next.Fits := by
  unfold Fits at fits
  cases advances with
  | cancelsDialing | dialingFails | hostUnfit | cancelsSecuring | securingFails | stops | loses =>
    exact fits_fail _ _ rfl
  | upgradeFails => exact fits_failUpgrade _ _
  | beginsSecuring | opensPlain | opensSecure | upgrades | takesClose | abandoned | peerCloses =>
    exact rfl
  | requests requesting =>
    rw [requesting] at fits
    exact fits
  | readsHead waiting =>
    rw [waiting] at fits
    exact fits
  | takesSend running | pings running =>
    rw [running] at fits
    exact fits
  | refuses reads | answersPing reads =>
    rw [reads.running] at fits
    exact fits
  | collects | hearsPong | receives | keepsPart | dropsFrame | usersRun => exact fits
  | writes writing | failsToWrite writing =>
    rw [writing] at fits
    exact fits_settle _ _ fits
  | peerAnswers | givesUpPeer | endsWait => exact fits_finishClosing _

theorem Fits.connected_of_not_writing (fits : connection.Fits)
    (connected : connection.isConnected = true) (idle : ∀ job, connection.phase ≠ .writing job) :
    connection.phase = .connected := by
  simp only [isConnected, decide_eq_true_eq] at connected
  unfold Fits at fits
  cases phase : connection.phase with
  | connected => rfl
  | writing job => exact absurd phase (idle job)
  | _ =>
    rw [phase, connected] at fits
    cases fits

/-! ## Runs -/

/-- The states that a connection passes through from its start on, with the inputs up to there.
Inputs may come between any two steps. -/
inductive Reaches (start : Connection) : List Input → Connection → Prop where
  | start : Reaches start [] start
  | step {inputs : List Input} {connection next : Connection}
      (reaches : Reaches start inputs connection) (step : connection.step? = some next) :
      Reaches start inputs next
  | apply {inputs : List Input} {connection : Connection}
      (reaches : Reaches start inputs connection) (input : Input) :
      Reaches start (inputs ++ [input]) (connection.apply input)

namespace Reaches

variable {start : Connection} {inputs : List Input}

theorem run (reaches : Reaches start inputs connection) : Reaches start inputs connection.run := by
  fun_induction Connection.run connection with
  | case1 => exact reaches
  | case2 connection next step ih => exact ih (reaches.step step)

theorem foldl_apply (reaches : Reaches start inputs connection) (more : List Input) :
    Reaches start (inputs ++ more) (more.foldl Connection.apply connection) := by
  induction more generalizing inputs connection with
  | nil => rwa [List.append_nil]
  | cons input more ih =>
    rw [List.append_cons]
    exact ih (reaches.apply input)

/-- A script that is played to its end leads to a state that is reached. -/
theorem foldl_play (reaches : Reaches start inputs connection) (script : List (List Input)) :
    Reaches start (inputs ++ script.flatten) (connection.playAll script) := by
  induction script generalizing inputs connection with
  | nil => rwa [List.flatten_nil, List.append_nil]
  | cons group script ih =>
    rw [List.flatten_cons, ← List.append_assoc]
    exact ih (reaches.foldl_apply group).run

end Reaches

theorem reaches_playAll (start : Connection) (script : List (List Input)) :
    Reaches start script.flatten (start.playAll script) :=
  Reaches.start.foldl_play script

/-- Takes so many steps, or fewer if nothing is left to do before. -/
def stepUpTo (connection : Connection) : Nat → Connection
  | 0 => connection
  | count + 1 => (connection.step?.getD connection).stepUpTo count

theorem Reaches.stepUpTo {start : Connection} {inputs : List Input}
    (reaches : Reaches start inputs connection) (count : Nat) :
    Reaches start inputs (connection.stepUpTo count) := by
  induction count generalizing connection with
  | zero => exact reaches
  | succ count ih =>
    refine ih ?_
    cases step : connection.step? with
    | none => exact reaches
    | some next => exact reaches.step step

theorem step?_of_isSome (steps : connection.step?.isSome = true) :
    connection.step? = some (connection.stepUpTo 1) := by
  obtain ⟨next, step⟩ := Option.isSome_iff_exists.mp steps
  rw [step, stepUpTo, step, Option.getD_some, stepUpTo]

/-! ## What inputs leave as it is -/

/-- Inputs change the stream, the time, the word to stop and the callers, and add to what is known
of the socket. All else stays. -/
theorem exists_apply_eq (connection : Connection) (input : Input) :
    ∃ now cancelled stream phase callers,
      connection.apply input = { connection with now, cancelled, stream, phase, callers } := by
  cases input with
  | socket outcome =>
    dsimp only [apply]
    split <;> exact ⟨_, _, _, _, _, rfl⟩
  | secure outcome =>
    dsimp only [apply]
    split <;> exact ⟨_, _, _, _, _, rfl⟩
  | _ => exact ⟨_, _, _, _, _, rfl⟩

theorem options_apply (connection : Connection) (input : Input) :
    (connection.apply input).options = connection.options := by
  obtain ⟨_, _, _, _, _, same⟩ := exists_apply_eq connection input
  rw [same]

theorem state_apply (connection : Connection) (input : Input) :
    (connection.apply input).state = connection.state := by
  obtain ⟨_, _, _, _, _, same⟩ := exists_apply_eq connection input
  rw [same]

/-- No input puts anything on the event stream, but one takes its reader away. -/
theorem items_apply (connection : Connection) (input : Input) :
    (connection.apply input).items = connection.items := by
  obtain ⟨_, _, _, _, _, same⟩ := exists_apply_eq connection input
  rw [same]

theorem learns_apply (connection : Connection) (input : Input) :
    connection.phase.Learns (connection.apply input).phase := by
  cases input with
  | socket outcome =>
    dsimp only [apply]
    split
    · next dialing =>
      rw [dialing]
      exact .socket ..
    · exact .nothing _
  | secure outcome =>
    dsimp only [apply]
    split
    · next securing =>
      rw [securing]
      exact .secure ..
    · exact .nothing _
  | _ => exact .nothing _

theorem fits_apply (fits : connection.Fits) (input : Input) : (connection.apply input).Fits := by
  rw [Fits, state_apply, (learns_apply connection input).admits_eq]
  exact fits

theorem socketHeld_of_apply {input : Input}
    (held : (connection.apply input).callers.socketHeld = true) :
    connection.callers.socketHeld = true := by
  cases input with
  | dropSocket => cases held
  | socket outcome =>
    dsimp only [apply] at held
    split at held <;> exact held
  | secure outcome =>
    dsimp only [apply] at held
    split at held <;> exact held
  | call call =>
    simp only [apply, Callers.call] at held
    repeat' split at held
    all_goals exact held
  | _ => exact held

/-! ## What holds in every run -/

theorem Reaches.options_eq {start : Connection} {inputs : List Input}
    (reaches : Reaches start inputs connection) : connection.options = start.options := by
  induction reaches with
  | start => rfl
  | step reaches step ih =>
    obtain ⟨items, advances⟩ := advances_of_step? step
    exact (congrArg Surroundings.options advances.surroundings_eq).trans ih
  | apply reaches input ih => exact (options_apply ..).trans ih

theorem Reaches.fits {start : Connection} {inputs : List Input}
    (reaches : Reaches start inputs connection) (fits : start.Fits) : connection.Fits := by
  induction reaches with
  | start => exact fits
  | step reaches step ih =>
    obtain ⟨items, advances⟩ := advances_of_step? step
    exact advances.fits ih
  | apply reaches input ih => exact fits_apply ih input

/-- What a reader who stays is told, along with anything that begins with it and is kept by every
rule and every input. A reader who leaves is told the beginning of it. -/
theorem Reaches.exists_told {start : Connection} {inputs : List Input}
    (reaches : Reaches start inputs connection)
    (Kept : List Input → Connection → List StreamItem → Prop)
    (begins : Kept [] start start.items.toList)
    (steps : ∀ {inputs connection items next told}, Kept inputs connection told →
      connection.Advances items next → Kept inputs next (told ++ items))
    (applies : ∀ {inputs connection told} (input : Input), Reaches start inputs connection →
      Kept inputs connection told → Kept (inputs ++ [input]) (connection.apply input) told) :
    ∃ told, Kept inputs connection told ∧ connection.items.toList <+: told ∧
      (connection.callers.socketHeld = true → connection.items.toList = told) := by
  induction reaches with
  | start => exact ⟨_, begins, List.prefix_rfl, fun _ => rfl⟩
  | step reaches step ih =>
    obtain ⟨told, kept, early, whole⟩ := ih
    obtain ⟨items, advances⟩ := advances_of_step? step
    have tells := advances.tells
    refine ⟨told ++ items, steps kept advances, ?_, ?_⟩
    · rw [tells.items]
      split
      · next held => exact whole held ▸ List.prefix_rfl
      · rw [List.append_nil]
        exact early.trans (List.prefix_append ..)
    · intro held
      rw [tells.held] at held
      rw [tells.items, whole held, if_pos held]
  | apply reaches input ih =>
    obtain ⟨told, kept, early, whole⟩ := ih
    rw [items_apply]
    exact ⟨told, applies input reaches kept, early, fun held => whole (socketHeld_of_apply held)⟩

/-! ## A session to look at -/

/-- A connection that draws zeros only. -/
def plainStart : Connection :=
  attach ⟨"ws", some "localhost", none, "/", none⟩ {} (List.replicate 16 0) fun _ => ⟨0, 0, 0, 0⟩

/-- The answer of a server that agrees to upgrade. -/
def agreement : Bytes :=
  Bytes.ofString ("HTTP/1.1 101 Switching Protocols\r\n"
    ++ "Upgrade: websocket\r\nConnection: Upgrade\r\n"
    ++ "Sec-WebSocket-Accept: ICX+Yqv66kxgM0FcWaLWlFLwTAI=\r\n\r\n")

end Connection

end WebSocket
