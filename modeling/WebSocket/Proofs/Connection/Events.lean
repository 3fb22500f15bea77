import Mathlib.Computability.Language
import WebSocket.Proofs.Connection.Runs

/-! # The language of the event stream

What the reader of a connection over an open stream gets to see is a word of a regular language over
the items of the event stream (`story`). Each phase has a language of its own, of all that may have
been told by then (`Phase.told`), and every rule leads from one of them into the next
(`Advances.told`). At any moment of any run the items are a prefix of a story, and once the
connection is over they are a whole one, unless the reader has left.
-/

namespace WebSocket

open Computability
open StreamItem (entered framed)

/-! ## Stories -/

/-- What is told of a stream that is already open, up to the upgrade. -/
def opening : Language StreamItem :=
  {[entered .initialized, entered .streamConnected, entered .upgrading]}

/-- What is told of an upgrade that fails: a status of its own if the error is one of the upgrade,
which is another one when the time ran out, then the end. -/
def failedUpgrade : Language StreamItem :=
  {told | ∃ error, told = Connection.upgradeReport error ++ [entered .aborted, .failure error]}

def upgrade : Language StreamItem :=
  {[entered .upgraded, entered .connected]}

/-- What is told in one piece while frames go both ways. -/
inductive Steady : List StreamItem → Prop where
  | data (frame : Frame) : Steady [framed .dataReceived frame]
  | pong (frame : Frame) : Steady [framed .pongReceived frame]
  | pingAnswered (frame : Frame) : Steady [framed .pingReceived frame, .status .pongSent]
  | pingUnanswered (frame : Frame) : Steady [framed .pingReceived frame, .status .sendFailed]
  | pinged : Steady [.status .pingSent]
  | sent : Steady [.status .sendComplete]
  | failedToSend : Steady [.status .sendFailed]

/-- How the exchange of frames ends. -/
inductive Ending : List StreamItem → Prop where
  | unanswered : Ending [entered .disconnecting, entered .disconnected]
  | unsent : Ending [entered .disconnecting, .status .sendFailed, entered .disconnected]
  | answered (frame : Frame) :
      Ending [entered .disconnecting, framed .closeReceived frame, entered .disconnected]
  | byPeer (frame : Frame) :
      Ending [framed .closeReceived frame, entered .disconnecting, entered .disconnected]
  | lost (cause : TransportError) : Ending [entered .aborted, .failure (.transport cause)]
  | refused (cause : Violation) : Ending [entered .aborted, .failure (.violation cause)]

def steady : Language StreamItem :=
  {told | Steady told}

def ending : Language StreamItem :=
  {told | Ending told}

/-- What is told from the beginning on as long as frames go both ways. -/
def exchange : Language StreamItem :=
  opening * upgrade * steady∗

/-- All that is told of a connection over an open stream. -/
def story : Language StreamItem :=
  opening * failedUpgrade + exchange * ending

variable {word items : List StreamItem}

theorem append_mem_exchange_of_opening (sofar : word ∈ opening) :
    word ++ [entered .upgraded, entered .connected] ∈ exchange := by
  have upgraded : word ++ [entered .upgraded, entered .connected] ∈ opening * upgrade :=
    Language.append_mem_mul sofar rfl
  have nothing := Language.append_mem_mul upgraded (Language.nil_mem_kstar steady)
  rwa [List.append_nil] at nothing

theorem append_mem_exchange (sofar : word ∈ exchange) (piece : Steady items) :
    word ++ items ∈ exchange := by
  obtain ⟨before, upgraded, pieces, many, rfl⟩ := Language.mem_mul.mp sofar
  rw [List.append_assoc]
  refine Language.append_mem_mul upgraded ?_
  exact (kstar_mul_le_kstar : steady∗ * steady ≤ steady∗) (Language.append_mem_mul many piece)

theorem append_mem_story_of_opening (sofar : word ∈ opening) (error : Error) :
    word ++ (Connection.upgradeReport error ++ [entered .aborted, .failure error]) ∈ story :=
  Or.inl (Language.append_mem_mul sofar ⟨error, rfl⟩)

theorem append_mem_story (sofar : word ∈ exchange) (last : Ending items) :
    word ++ items ∈ story :=
  Or.inr (Language.append_mem_mul sofar last)

/-! ## What has been told in each phase -/

/-- A ping that is still to be answered. -/
def pinged : Language StreamItem :=
  {told | ∃ frame, told = [framed .pingReceived frame]}

/-- The close of a peer, which is still to be answered. -/
def closedByPeer : Language StreamItem :=
  {told | ∃ frame, told = [framed .closeReceived frame, entered .disconnecting]}

/-- What may have been told when a connection over an open stream is in a phase. The first two
phases do not occur then. -/
def Phase.told : Phase → Language StreamItem
  | dialing .. | securing _ => 0
  | requesting _ | awaitingHead .. => opening
  | connected | writing (.command ..) | writing .keepAlive | writing (.refusal _) => exchange
  | writing (.pong _) => exchange * pinged
  | writing (.close ..) | awaitingClose _ => exchange * {[entered .disconnecting]}
  | writing (.echo _) => exchange * closedByPeer
  | ended => story

/-- News of the socket puts nothing on the event stream. -/
theorem Phase.Learns.told_eq {before after : Phase} (learns : before.Learns after) :
    after.told = before.told := by
  cases learns <;> rfl

namespace Connection

variable {connection next : Connection}

/-- The end of a write tells how it went. -/
theorem told_settle {job : Job} (error : Option TransportError)
    (sofar : word ∈ (Phase.writing job).told) :
    word ++ settledItems job error.isNone ∈ (connection.settle job error).phase.told := by
  cases job with
  | command id frames =>
    cases error with
    | none =>
      refine append_mem_exchange sofar ?_
      simp only [settledItems, Option.isNone_none, sentStatus]
      split
      · exact .pinged
      · exact .sent
    | some cause => exact append_mem_exchange sofar .failedToSend
  | keepAlive =>
    cases error with
    | none => exact append_mem_exchange sofar .pinged
    | some cause => exact append_mem_exchange sofar .failedToSend
  | pong frame =>
    obtain ⟨before, exchanged, begun, ⟨ping, rfl⟩, rfl⟩ := Language.mem_mul.mp sofar
    rw [List.append_assoc]
    cases error with
    | none => exact append_mem_exchange exchanged (.pingAnswered ping)
    | some cause => exact append_mem_exchange exchanged (.pingUnanswered ping)
  | close reason id =>
    cases error with
    | none =>
      rw [show settledItems (.close reason id) (none : Option TransportError).isNone = [] from rfl,
        List.append_nil]
      exact sofar
    | some cause =>
      obtain ⟨before, exchanged, begun, rfl, rfl⟩ := Language.mem_mul.mp sofar
      rw [List.append_assoc]
      exact append_mem_story exchanged .unsent
  | echo frame =>
    obtain ⟨before, exchanged, begun, ⟨close, rfl⟩, rfl⟩ := Language.mem_mul.mp sofar
    rw [List.append_assoc]
    exact append_mem_story exchanged (.byPeer close)
  | refusal cause => exact append_mem_story sofar (.refused cause)

theorem UpgradeFails.told_eq {error : Error} (fails : connection.UpgradeFails error) :
    connection.phase.told = opening := by
  rcases fails.phase_cases with ⟨_, phase⟩ | ⟨_, _, _, phase⟩
  all_goals rw [phase, Phase.told]

/-- Every rule leads from what may have been told in one phase to what may have been told in the
next. -/
theorem Advances.told (advances : connection.Advances items next)
    (sofar : word ∈ connection.phase.told) : word ++ items ∈ next.phase.told := by
  have silent {phase : Phase} (same : phase.told = connection.phase.told) :
      word ++ [] ∈ phase.told := by rwa [same, List.append_nil]
  cases advances with
  | cancelsDialing phase | dialingFails phase | hostUnfit phase | beginsSecuring phase
  | opensPlain phase | cancelsSecuring phase | securingFails phase | opensSecure phase =>
    rw [phase] at sofar
    exact sofar.elim
  | upgradeFails fails =>
    rw [fails.told_eq] at sofar
    exact append_mem_story_of_opening sofar _
  | requests phase => exact silent (by rw [phase]; rfl)
  | readsHead phase => exact silent (by rw [phase]; rfl)
  | upgrades phase =>
    rw [phase] at sofar
    exact append_mem_exchange_of_opening sofar
  | stops running =>
    rw [running] at sofar
    exact append_mem_story sofar (.lost .cancelled)
  | takesSend running => exact silent (by rw [running]; rfl)
  | takesClose running | abandoned running =>
    rw [running] at sofar
    exact Language.append_mem_mul sofar rfl
  | pings running => exact silent (by rw [running]; rfl)
  | refuses reads => exact silent (by rw [reads.running]; rfl)
  | collects => exact silent rfl
  | answersPing reads =>
    rw [reads.running] at sofar
    exact Language.append_mem_mul sofar ⟨_, rfl⟩
  | hearsPong reads =>
    rw [reportFrame, phase_emit]
    change word ∈ connection.phase.told at sofar
    change word ++ _ ∈ connection.phase.told
    rw [reads.running] at sofar ⊢
    exact append_mem_exchange sofar (.pong _)
  | receives reads =>
    rw [reportFrame, phase_emit]
    change word ++ _ ∈ connection.phase.told
    rw [reads.running] at sofar ⊢
    exact append_mem_exchange sofar (.data _)
  | peerCloses reads =>
    rw [reads.running] at sofar
    exact Language.append_mem_mul sofar ⟨_, rfl⟩
  | loses reads =>
    rw [reads.running] at sofar
    exact append_mem_story sofar (.lost _)
  | keepsPart => exact silent rfl
  | writes writing =>
    rw [writing] at sofar
    exact told_settle none sofar
  | failsToWrite writing =>
    rw [writing] at sofar
    exact told_settle (some _) sofar
  | dropsFrame => exact silent rfl
  | peerAnswers waiting =>
    rw [waiting] at sofar
    obtain ⟨before, exchanged, begun, rfl, rfl⟩ := Language.mem_mul.mp sofar
    rw [List.append_assoc]
    exact append_mem_story exchanged (.answered _)
  | givesUpPeer waiting | endsWait waiting =>
    rw [waiting] at sofar
    obtain ⟨before, exchanged, begun, rfl, rfl⟩ := Language.mem_mul.mp sofar
    rw [List.append_assoc]
    exact append_mem_story exchanged .unanswered
  | usersRun => exact silent rfl

/-! ## What is told in a run -/

variable {url : Url} {options : Options} {nonce : Bytes} {keys : Nat → MaskKey}
  {inputs : List Input}

/-- What a reader who stays is told goes with the phase. -/
theorem Reaches.told (reaches : Reaches (attach url options nonce keys) inputs connection) :
    ∃ word ∈ connection.phase.told, connection.items.toList <+: word ∧
      (connection.callers.socketHeld = true → connection.items.toList = word) := by
  refine reaches.exists_told (fun _ connection word => word ∈ connection.phase.told) rfl
    (fun sofar advances => advances.told sofar) ?_
  intro inputs connection word input reaches sofar
  rwa [(learns_apply connection input).told_eq]

/-- Whatever has been told can be told to its end. -/
theorem exists_story_of_told {phase : Phase} (sofar : word ∈ phase.told) :
    ∃ whole ∈ story, word <+: whole := by
  have ofOpening {before : List StreamItem} (sofar : before ∈ opening) :
      ∃ whole ∈ story, before <+: whole :=
    ⟨_, append_mem_story_of_opening sofar (.transport .cancelled), List.prefix_append ..⟩
  have ofExchange {before : List StreamItem} (sofar : before ∈ exchange) :
      ∃ whole ∈ story, before <+: whole :=
    ⟨_, append_mem_story sofar (.lost .cancelled), List.prefix_append ..⟩
  have ofBegun {before begun rest : List StreamItem} (sofar : before ∈ exchange)
      (last : Ending (begun ++ rest)) : ∃ whole ∈ story, before ++ begun <+: whole := by
    refine ⟨_, append_mem_story sofar last, ?_⟩
    rw [← List.append_assoc]
    exact List.prefix_append ..
  cases phase with
  | dialing | securing => exact sofar.elim
  | requesting | awaitingHead => exact ofOpening sofar
  | connected => exact ofExchange sofar
  | awaitingClose deadline =>
    obtain ⟨before, exchanged, begun, rfl, rfl⟩ := Language.mem_mul.mp sofar
    exact ofBegun exchanged .unanswered
  | ended => exact ⟨word, sofar, List.prefix_rfl⟩
  | writing job =>
    cases job with
    | command | keepAlive | refusal => exact ofExchange sofar
    | pong answer =>
      obtain ⟨before, exchanged, begun, ⟨ping, rfl⟩, rfl⟩ := Language.mem_mul.mp sofar
      obtain ⟨whole, isStory, early⟩ :=
        ofExchange (append_mem_exchange exchanged (.pingAnswered ping))
      refine ⟨whole, isStory, List.IsPrefix.trans ?_ early⟩
      exact (List.prefix_append_right_inj _).mpr (List.prefix_append [_] [_])
    | close reason id =>
      obtain ⟨before, exchanged, begun, rfl, rfl⟩ := Language.mem_mul.mp sofar
      exact ofBegun exchanged .unanswered
    | echo answer =>
      obtain ⟨before, exchanged, begun, ⟨close, rfl⟩, rfl⟩ := Language.mem_mul.mp sofar
      exact ofBegun exchanged (.byPeer close)

/-- The items of the event stream are a prefix of a story, and a whole one once the connection is
over, unless the reader has left. -/
theorem Reaches.items_story (reaches : Reaches (attach url options nonce keys) inputs connection) :
    (∃ whole ∈ story, connection.items.toList <+: whole) ∧
      (connection.isOver = true → connection.callers.socketHeld = true →
        connection.items.toList ∈ story) := by
  obtain ⟨word, sofar, early, whole⟩ := reaches.told
  constructor
  · obtain ⟨told, isStory, begins⟩ := exists_story_of_told sofar
    exact ⟨told, isStory, early.trans begins⟩
  · intro isOver held
    have ended : connection.phase = .ended := by
      unfold Connection.isOver at isOver
      split at isOver
      · next ended => exact ended
      · cases isOver
    rw [ended] at sofar
    rw [whole held]
    exact sofar

/-- The server sends a ping and a close frame behind the response head. -/
theorem items_story_of_close :
    let inputs := [.arrive (agreement ++ [0x89, 0x01, 0x70, 0x88, 0x00])]
    let closed := (inputs.foldl apply plainStart).stepUpTo 6
    Reaches plainStart inputs closed ∧ closed.isOver = true ∧ closed.callers.socketHeld = true ∧
      (∃ whole ∈ story, closed.items.toList <+: whole) ∧ closed.items.toList ∈ story := by
  intro inputs closed
  have reaches : Reaches plainStart inputs closed := (Reaches.start.foldl_apply inputs).stepUpTo 6
  obtain ⟨isOver, held⟩ : closed.isOver = true ∧ closed.callers.socketHeld = true := by
    decide +kernel
  obtain ⟨early, whole⟩ := Reaches.items_story reaches
  exact ⟨reaches, isOver, held, early, whole isOver held⟩

end Connection

end WebSocket
