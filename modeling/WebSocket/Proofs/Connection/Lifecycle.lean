import Mathlib.Data.List.Chain
import WebSocket.Proofs.Connection.Runs

/-! # The life of a connection follows the lifecycle

However a connection begins, and whatever happens to it, it starts out `initialized`, goes from one
state to another only along the edges of the lifecycle and is over exactly in the terminal states.
Every edge leads deeper (`ConnectionState.depth_lt_of_canBecome`), so that no state comes back. What
the event stream says of states is the states themselves: a step enters the states that its label
names, in that order (`Advances.walks`).
-/

namespace WebSocket

/-! ## The lifecycle -/

namespace ConnectionState

/-- How many states at most lie before a state. -/
def depth : ConnectionState → Nat
  | initialized => 0
  | connectingSocket => 1
  | socketConnected => 2
  | connectingStream => 3
  | streamConnected | secureStreamConnected => 4
  | upgrading => 5
  | upgraded => 6
  | connected => 7
  | disconnecting => 8
  | disconnected | aborted | connectionFailed => 9

theorem depth_lt_of_canBecome {state next : ConnectionState}
    (edge : state.canBecome next = true) : state.depth < next.depth := by
  cases state <;> cases next <;> simp_all [canBecome, isTerminal, depth]

/-- Along the edges of the lifecycle no state comes twice. -/
theorem nodup_of_isChain {states : List ConnectionState}
    (edges : states.IsChain fun state next => state.canBecome next = true) : states.Nodup := by
  have deeper : states.IsChain fun state next => state.depth < next.depth :=
    edges.imp fun _ _ => depth_lt_of_canBecome
  have climbs : (states.map depth).Pairwise (· < ·) :=
    ((List.isChain_map depth).mpr deeper).pairwise
  exact (List.pairwise_map.mp climbs).imp fun lower same => by
    rw [same] at lower
    exact Nat.lt_irrefl _ lower

end ConnectionState

/-- What the event stream says of states. -/
def statesIn (items : List StreamItem) : List ConnectionState :=
  items.filterMap fun
    | .event { status := .entered state, .. } => some state
    | _ => none

theorem statesIn_append (told items : List StreamItem) :
    statesIn (told ++ items) = statesIn told ++ statesIn items :=
  List.filterMap_append

namespace Connection

open StreamItem (entered)

variable {connection next : Connection} {items : List StreamItem}

/-! ## The states that a step enters -/

/-- One connection comes from another by entering the states that items tell of. -/
structure Walks (connection : Connection) (items : List StreamItem) (next : Connection) : Prop where
  states : next.states.toList = connection.states.toList ++ statesIn items
  present : connection.states.back? = some connection.state → next.states.back? = some next.state

namespace Walks

variable {before middle : Connection} {first second : List StreamItem}

theorem quiet (silent : statesIn items = []) (states : next.states = connection.states)
    (state : next.state = connection.state) : Walks connection items next where
  states := by rw [silent, states, List.append_nil]
  present := by rw [states, state]; exact id

theorem trans (early : Walks connection first middle) (late : Walks middle second next) :
    Walks connection (first ++ second) next where
  states := by rw [late.states, early.states, statesIn_append, List.append_assoc]
  present := late.present ∘ early.present

/-- What comes first enters no state. -/
theorem after (walks : Walks before items next) (states : before.states = connection.states)
    (state : before.state = connection.state) : Walks connection items next :=
  have nothing : Walks connection [] before := quiet rfl states state
  nothing.trans walks

/-- What comes last enters no state. -/
theorem andThen (walks : Walks connection items middle) (states : next.states = middle.states)
    (state : next.state = middle.state) : Walks connection items next := by
  have nothing : Walks middle [] next := quiet rfl states state
  have both := walks.trans nothing
  rwa [List.append_nil] at both

theorem enter (connection : Connection) (state : ConnectionState) :
    Walks connection [entered state] (connection.enter state) where
  states := Array.toList_push
  present _ := Array.back?_push

theorem fail (connection : Connection) (state : ConnectionState) (error : Error) :
    Walks connection [entered state, .failure error] (connection.fail state error) :=
  have told : Walks (connection.enter state) [.failure error] (connection.fail state error) :=
    quiet rfl rfl rfl
  (enter connection state).trans told

theorem failUpgrade (connection : Connection) (error : Error) :
    Walks connection (upgradeReport error ++ [entered .aborted, .failure error])
      (connection.failUpgrade error) := by
  have failing (reported : Connection) :
      Walks reported [entered .aborted, .failure error] (reported.shutDown.fail .aborted error) :=
    (fail reported.shutDown .aborted error).after rfl rfl
  have reporting (status : ConnectionStatus) (other : statesIn [.status status] = []) :
      Walks connection ([.status status] ++ [entered .aborted, .failure error])
        ((connection.report status).shutDown.fail .aborted error) :=
    have reported : Walks connection [.status status] (connection.report status) :=
      quiet other rfl rfl
    reported.trans (failing _)
  cases error with
  | upgrade cause => cases cause <;> exact reporting _ rfl
  | setup | transport | violation | call => exact failing connection

theorem finishClosing (connection : Connection) :
    Walks connection [entered .disconnected] connection.finishClosing := by
  have entering : Walks connection [entered .disconnected]
      (connection.shutDown.enter .disconnected) :=
    (enter connection.shutDown .disconnected).after rfl rfl
  exact entering.andThen rfl rfl

theorem startUpgrade (connection : Connection) (opened : ConnectionState) :
    Walks connection [entered opened, entered .upgrading] (connection.startUpgrade opened) :=
  ((enter connection opened).trans (enter _ _)).andThen rfl rfl

theorem beginExchange (connection : Connection) (subprotocol : Option String) (rest : Bytes) :
    Walks connection [entered .upgraded, entered .connected]
      (connection.beginExchange subprotocol rest) := by
  let before := { connection.withInbox rest with subprotocol }
  have entering := (enter before .upgraded).trans (enter _ .connected)
  have whole : Walks before [entered .upgraded, entered .connected]
      (connection.beginExchange subprotocol rest) := entering.andThen rfl rfl
  exact whole.after rfl rfl

theorem settle (connection : Connection) (job : Job) (error : Option TransportError) :
    Walks connection (settledItems job error.isNone) (connection.settle job error) := by
  cases job with
  | command id frames =>
    cases error with
    | none =>
      refine quiet ?_ rfl rfl
      simp only [settledItems, Option.isNone_none, sentStatus]
      split <;> rfl
    | some cause => exact quiet rfl rfl rfl
  | keepAlive | pong => cases error <;> exact quiet rfl rfl rfl
  | close reason id =>
    cases error with
    | none => cases id <;> exact quiet rfl rfl rfl
    | some cause =>
      have failing (before : Connection) (states : before.states = connection.states)
          (state : before.state = connection.state) :
          Walks connection ([.status .sendFailed] ++ [entered .disconnected])
            before.finishClosing :=
        (quiet rfl states state).trans (finishClosing before)
      cases id <;> exact failing _ rfl rfl
  | echo frame => exact finishClosing connection
  | refusal cause => exact (fail connection.shutDown .aborted _).after rfl rfl

end Walks

/-- A step enters the states that its label names. -/
theorem Advances.walks (advances : connection.Advances items next) :
    Walks connection items next := by
  cases advances with
  | cancelsDialing | dialingFails | cancelsSecuring | securingFails | loses => exact .fail ..
  | hostUnfit => exact ((Walks.enter ..).trans (.enter ..)).trans (.fail ..)
  | beginsSecuring => exact ((Walks.enter ..).trans (.enter ..)).andThen rfl rfl
  | opensPlain => exact ((Walks.enter ..).trans (.enter ..)).trans (.startUpgrade ..)
  | opensSecure => exact .startUpgrade ..
  | upgradeFails => exact .failUpgrade ..
  | upgrades => exact .beginExchange ..
  | stops => exact (Walks.fail connection.shutDown ..).after rfl rfl
  | requests | readsHead | takesSend | pings | refuses | collects | answersPing | hearsPong
  | receives | keepsPart | dropsFrame | usersRun => exact .quiet rfl rfl rfl
  | @takesClose running going id reason queue queued =>
    let taken := { connection with callers := { connection.callers with queue } }
    exact .andThen (.after (.enter taken _) rfl rfl) rfl rfl
  | abandoned => exact (Walks.enter connection _).andThen rfl rfl
  | @peerCloses reads frame message takes assembly =>
    let reported := (connection.assembled assembly).reportFrame .closeReceived message
    have hears : Walks connection [.framed .closeReceived message] reported := .quiet rfl rfl rfl
    exact (hears.trans (.enter reported _)).andThen rfl rfl
  | @writes job => exact (Walks.settle (connection.record _) job none).after rfl rfl
  | @failsToWrite job => exact .settle connection job (some _)
  | @peerAnswers deadline waiting frame =>
    let taken := connection.afterDecoding connection.decodeNext
    let reported := taken.reportFrame .closeReceived frame
    have hears : Walks connection [.framed .closeReceived frame] reported := .quiet rfl rfl rfl
    exact hears.trans (.finishClosing reported)
  | givesUpPeer => exact (Walks.finishClosing (connection.afterDecoding _)).after rfl rfl
  | endsWait => exact .finishClosing connection

/-! ## Legal edges -/

/-- The states that a step enters follow on the present one along the edges of the lifecycle. -/
def Legally (state : ConnectionState) (items : List StreamItem) : Prop :=
  (state :: statesIn items).IsChain fun state next => state.canBecome next = true

theorem legally_settledItems {job : Job} {state : ConnectionState} (succeeded : Bool)
    (admitted : (Phase.writing job).admits state) : Legally state (settledItems job succeeded) := by
  have silent (none : statesIn (settledItems job succeeded) = []) :
      Legally state (settledItems job succeeded) := by
    rw [Legally, none]
    exact List.isChain_singleton _
  cases job with
  | command id frames =>
    cases succeeded with
    | false => exact silent rfl
    | true =>
      refine silent ?_
      simp only [settledItems, sentStatus]
      split <;> rfl
  | keepAlive | pong => cases succeeded <;> exact silent rfl
  | close reason id =>
    cases admitted
    cases succeeded with
    | false => exact List.isChain_pair.mpr rfl
    | true => exact silent rfl
  | echo | refusal =>
    cases admitted
    exact List.isChain_pair.mpr rfl

/-- Whatever a connection does, it keeps to the edges of the lifecycle. -/
theorem Advances.legally (advances : connection.Advances items next) (fits : connection.Fits) :
    Legally connection.state items := by
  have admitted {phase : Phase} (same : connection.phase = phase) :
      phase.admits connection.state := by
    rw [← same]
    exact fits
  have silent (none : statesIn items = []) : Legally connection.state items := by
    rw [Legally, none]
    exact List.isChain_singleton _
  have along {state : ConnectionState} (present : connection.state = state)
      (legal : (state :: statesIn items).IsChain fun state next => state.canBecome next = true) :
      Legally connection.state items := by
    rwa [Legally, present]
  cases advances with
  | cancelsDialing phase | dialingFails phase | hostUnfit phase | beginsSecuring phase
  | opensPlain phase | cancelsSecuring phase | securingFails phase | opensSecure phase
  | upgrades phase | stops phase | takesClose phase | abandoned phase | peerAnswers phase
  | givesUpPeer phase | endsWait phase =>
    exact along (admitted phase) (by simp [statesIn]; decide)
  | peerCloses reads | loses reads =>
    exact along (admitted reads.running) (by simp [statesIn]; decide)
  | @upgradeFails error fails =>
    have present : connection.state = .upgrading := by
      rcases fails.phase_cases with ⟨_, phase⟩ | ⟨_, _, _, phase⟩
      all_goals exact admitted phase
    have reported : statesIn (upgradeReport error) = [] := by
      cases error with
      | upgrade cause => cases cause <;> rfl
      | setup | transport | violation | call => rfl
    refine along present ?_
    rw [statesIn_append, reported]
    exact List.isChain_pair.mpr rfl
  | requests | readsHead | takesSend | pings | refuses | collects | answersPing | hearsPong
  | receives | keepsPart | dropsFrame | usersRun => exact silent rfl
  | writes writing => exact legally_settledItems true (admitted writing)
  | failsToWrite writing => exact legally_settledItems false (admitted writing)

/-! ## Runs -/

/-- The states so far go along the edges of the lifecycle, from its beginning to the present one. -/
structure Lawful (connection : Connection) : Prop where
  first : connection.states[0]? = some .initialized
  present : connection.states.back? = some connection.state
  edges : connection.states.toList.IsChain fun state next => state.canBecome next = true

theorem Lawful.step (lawful : connection.Lawful) (fits : connection.Fits)
    (advances : connection.Advances items next) : next.Lawful := by
  have walks := advances.walks
  have legal := advances.legally fits
  refine ⟨?_, walks.present lawful.present, ?_⟩
  · have first := lawful.first
    rw [← Array.getElem?_toList] at first ⊢
    rw [walks.states, List.getElem?_append_left (List.getElem?_eq_some_iff.mp first).1, first]
  · have last : connection.states.toList.getLast? = some connection.state := by
      rw [Array.getLast?_toList, lawful.present]
    rw [walks.states]
    refine lawful.edges.append legal.tail fun state isLast after isNext => ?_
    rw [last] at isLast
    cases isLast
    exact legal.rel_head? isNext

/-- How a connection may begin. -/
inductive Begins : Connection → Prop where
  | attached (url : Url) (options : Options) (nonce : Bytes) (keys : Nat → MaskKey) :
    Begins (attach url options nonce keys)
  | dialed {url : Url} {options : Options} {policyReady : Bool} {nonce : Bytes}
      {keys : Nat → MaskKey} {start : Connection}
      (dialed : dial? url options policyReady nonce keys = .ok start) : Begins start

/-- A connection whose socket is still to be opened waits for it. -/
theorem exists_dialing {url : Url} {options : Options} {policyReady : Bool} {nonce : Bytes}
    {keys : Nat → MaskKey} {start : Connection}
    (dialed : dial? url options policyReady nonce keys = .ok start) :
    ∃ secure, start =
      (fresh url options nonce keys (.dialing secure options.connectTimeout none)).enter
        .connectingSocket := by
  unfold dial? at dialed
  simp only [bind, Except.bind, pure, Except.pure, throw, throwThe, MonadExceptOf.throw] at dialed
  split at dialed
  · cases dialed
  · split at dialed
    · next secure _ =>
      refine ⟨secure, ?_⟩
      repeat' split at dialed
      all_goals cases dialed
      all_goals rfl
    · cases dialed

theorem Begins.fits {start : Connection} (begins : Begins start) : start.Fits := by
  cases begins with
  | attached => rfl
  | dialed dialed =>
    obtain ⟨secure, rfl⟩ := exists_dialing dialed
    rfl

theorem Begins.lawful {start : Connection} (begins : Begins start) : start.Lawful := by
  cases begins with
  | attached url options nonce keys =>
    have states : (attach url options nonce keys).states =
        #[.initialized, .streamConnected, .upgrading] := rfl
    refine ⟨rfl, rfl, ?_⟩
    rw [states]
    decide
  | @dialed url options policyReady nonce keys _ dialed =>
    obtain ⟨secure, rfl⟩ := exists_dialing dialed
    refine ⟨rfl, rfl, ?_⟩
    exact List.isChain_pair.mpr rfl

theorem Begins.statesIn_eq {start : Connection} (begins : Begins start) :
    statesIn start.items.toList = start.states.toList := by
  cases begins with
  | attached => rfl
  | dialed dialed =>
    obtain ⟨secure, rfl⟩ := exists_dialing dialed
    rfl

variable {start : Connection} {inputs : List Input}

theorem states_apply (connection : Connection) (input : Input) :
    (connection.apply input).states = connection.states := by
  obtain ⟨_, _, _, _, _, same⟩ := exists_apply_eq connection input
  rw [same]

theorem Reaches.lawful (begins : Begins start) (reaches : Reaches start inputs connection) :
    connection.Lawful := by
  induction reaches with
  | start => exact begins.lawful
  | step reaches step ih =>
    obtain ⟨items, advances⟩ := advances_of_step? step
    exact ih.step (reaches.fits begins.fits) advances
  | @apply inputs connection reaches input ih =>
    have state := state_apply connection input
    have states := states_apply connection input
    refine ⟨?_, ?_, ?_⟩
    · rw [states, ih.first]
    · rw [states, state, ih.present]
    · rw [states]
      exact ih.edges

/-- A reader who stays is told all states. -/
theorem Reaches.told_states (begins : Begins start) (reaches : Reaches start inputs connection) :
    statesIn connection.items.toList <+: connection.states.toList ∧
      (connection.callers.socketHeld = true →
        statesIn connection.items.toList = connection.states.toList) := by
  obtain ⟨told, same, early, whole⟩ := reaches.exists_told
    (fun _ connection told => statesIn told = connection.states.toList) begins.statesIn_eq
    (fun same advances => by rw [statesIn_append, same, advances.walks.states])
    (fun input _ same => by rw [same, states_apply])
  rw [← same]
  exact ⟨early.filterMap _, fun held => by rw [whole held]⟩

/-- The connection is over in the terminal states. -/
theorem Fits.isOver_iff_isTerminal (fits : connection.Fits) :
    connection.isOver = true ↔ connection.state.isTerminal = true := by
  unfold Fits at fits
  unfold isOver
  cases phase : connection.phase with
  | ended =>
    rw [phase] at fits
    exact iff_of_true rfl fits
  | writing job =>
    rw [phase] at fits
    cases job <;> (rw [fits]; exact Iff.rfl)
  | _ =>
    rw [phase] at fits
    rw [fits]
    exact Iff.rfl

/-- However a connection begins and whatever happens to it, its states begin with `initialized`, go
along the edges of the lifecycle up to the present one and never repeat; the event stream tells of
them in their order, and of all of them to a reader who stays; and the connection is over exactly in
a terminal state. -/
theorem Reaches.states_lawful (begins : Begins start) (reaches : Reaches start inputs connection) :
    connection.states[0]? = some .initialized ∧
      connection.states.back? = some connection.state ∧
      connection.states.toList.IsChain (fun state next => state.canBecome next = true) ∧
      connection.states.toList.Nodup ∧
      (statesIn connection.items.toList <+: connection.states.toList ∧
        (connection.callers.socketHeld = true →
          statesIn connection.items.toList = connection.states.toList)) ∧
      (connection.isOver = true ↔ connection.state.isTerminal = true) := by
  have lawful := reaches.lawful begins
  exact ⟨lawful.first, lawful.present, lawful.edges, ConnectionState.nodup_of_isChain lawful.edges,
    reaches.told_states begins, (reaches.fits begins.fits).isOver_iff_isTerminal⟩

/-- The socket opens and the TLS exchange fails on it. -/
theorem states_lawful_of_failed_exchange :
    let url : Url := ⟨"wss", some "localhost", none, "/", none⟩
    let start := (fresh url {} [] (fun _ => ⟨0, 0, 0, 0⟩) (.dialing true 15000 none)).enter
      .connectingSocket
    let opened := (start.apply (.socket (.ok ()))).stepUpTo 2
    let failure : TransportError := .tlsHandshake "bad certificate"
    let ended := (opened.apply (.secure (.error failure))).stepUpTo 2
    let inputs := [.socket (.ok ()), .secure (.error failure)]
    Begins start ∧ Reaches start inputs ended ∧ ended.callers.socketHeld = true ∧
      ended.states = #[.initialized, .connectingSocket, .socketConnected, .connectingStream,
        .connectionFailed] ∧
      statesIn ended.items.toList = ended.states.toList ∧ ended.states.toList.Nodup ∧
      ended.isOver = true ∧ ended.state.isTerminal = true := by
  intro url start opened failure ended inputs
  have dialed : dial? url {} true [] (fun _ => ⟨0, 0, 0, 0⟩) = .ok start := by rfl
  have begins : Begins start := .dialed dialed
  have opening : Reaches start [.socket (.ok ())] opened := (Reaches.start.apply _).stepUpTo 2
  have reaches : Reaches start inputs ended := (opening.apply _).stepUpTo 2
  obtain ⟨held, finished, states⟩ : ended.callers.socketHeld = true ∧ ended.isOver = true ∧
      ended.states = #[.initialized, .connectingSocket, .socketConnected, .connectingStream,
        .connectionFailed] := by
    decide +kernel
  obtain ⟨-, -, -, nodup, ⟨-, told⟩, terminal⟩ := Reaches.states_lawful begins reaches
  exact ⟨begins, reaches, held, states, told held, nodup, finished, terminal.mp finished⟩

end Connection

end WebSocket
