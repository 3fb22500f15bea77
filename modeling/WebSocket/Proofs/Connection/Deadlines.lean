import WebSocket.Proofs.Connection.Ledger
import WebSocket.Proofs.Connection.Reception
import WebSocket.Proofs.Connection.Timely

/-! # Deadlines are exact

The upgrade has a time that runs from the beginning, and the wait for the peer's close frame has one
that runs from the moment at which the client's own went out. A connection with nothing left to do
is within the time of what it waits for, and it never gives up before that time is over
(`Reaches.deadlines_exact`). No step moves the deadline of the upgrade (`Advances.upgradesUntil`).
What is still to come while the peer's close frame is awaited is the end of all that was to come
when the client's went out, so that nothing but the time, the end of the stream or a result of the
decoder can end the wait (`WritesClose.closes`).
-/

namespace WebSocket

/-! ## The time for the upgrade -/

/-- Whether an item says that the time for the upgrade was up. -/
def StreamItem.saysTimedOut : StreamItem → Bool
  | .event told => told.status = .upgradeTimedOut
  | .failure error => error = .upgrade .timedOut

/-- When a phase of the upgrade ends without success. -/
def Phase.upgradesUntil? : Phase → Option Nat
  | requesting deadline | awaitingHead _ deadline _ => some deadline
  | _ => none

/-- No answer of the server is to blame for the time. -/
theorem UpgradeRequest.verify_ne_timedOut (request : UpgradeRequest) (head : Http.ResponseHead) :
    request.verify head ≠ .error .timedOut := by
  have chosen : negotiate request.subprotocols head.headers ≠ .error .timedOut := by
    unfold negotiate
    split
    · simp
    · dsimp only
      split
      · simp
      · split <;> simp
  unfold verify
  dsimp only
  repeat' split
  all_goals try simp
  cases outcome : negotiate request.subprotocols head.headers with
  | error cause =>
    rw [outcome] at chosen
    simpa [Except.map] using chosen
  | ok name => simp [Except.map]

namespace Connection

open StreamItem (entered)

variable {connection next : Connection} {items : List StreamItem} {inputs : List Input}

theorem upgradesUntil_settle (connection : Connection) (job : Job)
    (error : Option TransportError) :
    (connection.settle job error).phase.upgradesUntil? = none := by
  cases job with
  | close reason id => cases id <;> cases error <;> simp [settle, Phase.upgradesUntil?]
  | command | keepAlive | pong | echo | refusal => simp [settle, Phase.upgradesUntil?]

/-- No step moves the deadline of the upgrade. -/
theorem Advances.upgradesUntil (advances : connection.Advances items next)
    (opened : connection.phase.rank ≤ 5) {deadline : Nat}
    (still : next.phase.upgradesUntil? = some deadline) :
    connection.phase.upgradesUntil? = some deadline := by
  cases advances with
  | cancelsDialing | dialingFails | hostUnfit | cancelsSecuring | securingFails | upgradeFails
  | stops | loses | peerAnswers | givesUpPeer | endsWait | takesSend | takesClose | abandoned
  | pings | refuses | answersPing | peerCloses | upgrades =>
    simp [Phase.upgradesUntil?, beginExchange] at still
  | beginsSecuring phase | opensPlain phase | opensSecure phase =>
    simp [phase, Phase.rank] at opened
  | requests requesting => rwa [requesting]
  | readsHead waiting => rwa [waiting]
  | collects | hearsPong | receives | keepsPart | dropsFrame | usersRun => exact still
  | @writes job =>
    have quiet := upgradesUntil_settle (connection.record (connection.framesOf job)) job none
    rw [quiet] at still
    cases still
  | failsToWrite =>
    rw [upgradesUntil_settle] at still
    cases still

variable {url : Url} {options : Options} {nonce : Bytes} {keys : Nat → MaskKey}

/-- The time for the upgrade runs from the beginning. -/
theorem Reaches.upgradesUntil
    (reaches : Reaches (attach url options nonce keys) inputs connection) :
    connection.phase.rank ≤ 5 ∧ ∀ deadline, connection.phase.upgradesUntil? = some deadline →
      deadline = options.upgradeTimeout := by
  induction reaches with
  | start =>
    refine ⟨Nat.le_refl 5, fun deadline still => ?_⟩
    cases still
    exact Nat.zero_add _
  | step reaches step ih =>
    obtain ⟨items, advances⟩ := advances_of_step? step
    exact ⟨(rank_le_of_step step).trans ih.1,
      fun deadline still => ih.2 deadline (advances.upgradesUntil ih.1 still)⟩
  | @apply inputs connection reaches input ih =>
    have learns := learns_apply connection input
    refine ⟨learns.rank_eq ▸ ih.1, fun deadline still => ih.2 deadline ?_⟩
    generalize (connection.apply input).phase = after, connection.phase = before at learns still ⊢
    cases learns with
    | nothing => exact still
    | socket | secure => cases still

theorem any_saysTimedOut_settledItems (job : Job) (succeeded : Bool) :
    (settledItems job succeeded).any StreamItem.saysTimedOut = false := by
  cases job with
  | command id frames =>
    cases succeeded with
    | false => rfl
    | true =>
      simp only [settledItems, sentStatus]
      split <;> rfl
  | keepAlive | pong | close | echo | refusal => cases succeeded <;> rfl

/-- A failed upgrade says so only for this reason. -/
theorem any_saysTimedOut_upgradeReport (error : Error) :
    (upgradeReport error ++ [entered .aborted, .failure error]).any StreamItem.saysTimedOut =
      decide (error = .upgrade .timedOut) := by
  cases error with
  | upgrade cause => cases cause <;> simp [upgradeReport, StreamItem.saysTimedOut]
  | setup | transport | violation | call => simp [upgradeReport, StreamItem.saysTimedOut]

/-- The time is up whenever an upgrade fails for want of it. -/
theorem UpgradeFails.late (fails : connection.UpgradeFails (.upgrade .timedOut)) :
    ∃ deadline, connection.phase.upgradesUntil? = some deadline ∧ deadline ≤ connection.now := by
  cases fails with
  | unsentInTime requesting _ _ late => exact ⟨_, by rw [requesting]; rfl, late⟩
  | unansweredInTime waiting _ _ _ late => exact ⟨_, by rw [waiting]; rfl, late⟩
  | refused _ _ _ _ refused => exact absurd refused (UpgradeRequest.verify_ne_timedOut _ _)

/-- The time is up whenever a step says so. -/
theorem Advances.late_of_saysTimedOut (advances : connection.Advances items next)
    (timedOut : items.any StreamItem.saysTimedOut = true) :
    ∃ deadline, connection.phase.upgradesUntil? = some deadline ∧ deadline ≤ connection.now := by
  cases advances with
  | upgradeFails fails =>
    rw [any_saysTimedOut_upgradeReport, decide_eq_true_eq] at timedOut
    subst timedOut
    exact fails.late
  | writes | failsToWrite =>
    rw [any_saysTimedOut_settledItems] at timedOut
    cases timedOut
  | _ => simp [StreamItem.saysTimedOut] at timedOut

/-! ## The wait for the peer's close frame -/

/-- The connection's own close frame goes out. -/
structure WritesClose (connection next : Connection) : Prop where
  writing : ∃ reason id, connection.phase = .writing (.close reason id)
  working : connection.stream.writes = .working
  step : connection.step? = some next

/-- All that the decoder will find in the inbox and more bytes behind it. -/
def toCome (connection : Connection) (more : Bytes) : List (Except Violation Frame) :=
  (connection.decoder.exhaust (connection.stream.inbox ++ more)).results

/-- Whether the wait for the peer's close frame ends with a result of the decoder. -/
def stopsWaiting : Except Violation Frame → Bool
  | .ok frame => frame.opcode = .close
  | .error _ => true

theorem toCome_append (connection : Connection) (bytes more : Bytes) :
    connection.toCome bytes <+: connection.toCome (bytes ++ more) := by
  rw [toCome, toCome, ← List.append_assoc,
    ← Decoder.feed_exhaust connection.decoder (connection.stream.inbox ++ bytes)]
  exact List.prefix_append ..

theorem toCome_of_waits (waits : connection.decodeNext.outcome = .ok none) (more : Bytes) :
    (connection.afterDecoding connection.decodeNext).toCome more = connection.toCome more :=
  congrArg Decoder.Exhausted.results (Decoder.exhaust_append_of_waits waits more).symm

theorem toCome_of_result {result : Except Violation Frame}
    (given : connection.decodeNext.result? = some result) (more : Bytes) :
    connection.toCome more =
      result :: (connection.afterDecoding connection.decodeNext).toCome more :=
  congrArg Decoder.Exhausted.results (Decoder.exhaust_append_of_result given more)

theorem result?_of_outcome_ok {frame : Frame}
    (decoded : connection.decodeNext.outcome = .ok (some frame)) :
    connection.decodeNext.result? = some (.ok frame) := by
  rw [Decoded.result?, decoded]

theorem result?_of_outcome_error {cause : Violation}
    (decoded : connection.decodeNext.outcome = .error cause) :
    connection.decodeNext.result? = some (.error cause) := by
  rw [Decoded.result?, decoded]

/-- Why the wait for the peer's close frame may be over, some inputs after the client's own frame
went out. -/
inductive MayStopWaiting (written : Connection) (later : List Input) (now : Nat) : Prop where
  | late (late : written.now + written.options.closeTimeout ≤ now)
  | ended (ended : (written.stream.ending.isSome || later.any Input.endsReading) = true)
  | heard {result : Except Violation Frame} (coming : result ∈ written.toCome (received later))
      (ends : stopsWaiting result = true)

theorem MayStopWaiting.apply {written : Connection} {later : List Input}
    (may : written.MayStopWaiting later connection.now) (input : Input) :
    written.MayStopWaiting (later ++ [input]) (connection.apply input).now := by
  cases may with
  | late late => exact .late (by rw [now_apply]; omega)
  | ended ended =>
    refine .ended ?_
    rw [List.any_append, ← Bool.or_assoc, ended, Bool.true_or]
  | heard coming ends =>
    refine .heard ?_ ends
    rw [received_append]
    exact (written.toCome_append _ _).subset coming

/-- The client's close frame is out and the peer's is awaited, or the wait is over for a reason. -/
inductive Closes (written : Connection) (later : List Input) (closing : Connection) : Prop where
  | waits (waiting : closing.phase = .awaitingClose (written.now + written.options.closeTimeout))
      (ending : closing.stream.ending.isSome =
        (written.stream.ending.isSome || later.any Input.endsReading))
      (coming : closing.stream.ending = none → ∀ more,
        closing.toCome more <:+ written.toCome (received later ++ more))
  | finished (finished : closing.isOver = true) (may : written.MayStopWaiting later closing.now)

/-- A step while the peer's close frame is awaited takes what comes first, and ends the wait only
for a reason. -/
theorem Advances.waits_or_stops {deadline : Nat} (advances : connection.Advances items next)
    (waiting : connection.phase = .awaitingClose deadline) :
    (next.phase = .awaitingClose deadline ∧
        ∀ more, next.toCome more <:+ connection.toCome more) ∨
      next.isOver = true ∧ (deadline ≤ connection.now ∨ connection.stream.ending.isSome = true ∨
        ∃ result ∈ connection.toCome [], stopsWaiting result = true) := by
  cases advances with
  | keepsPart _ waits =>
    refine .inl ⟨waiting, fun more => ?_⟩
    have same := toCome_of_waits waits more
    exact same ▸ List.suffix_rfl
  | dropsFrame _ decoded =>
    refine .inl ⟨waiting, fun more => ?_⟩
    rw [toCome_of_result (result?_of_outcome_ok decoded)]
    exact List.suffix_cons ..
  | peerAnswers _ decoded close =>
    have all := toCome_of_result (result?_of_outcome_ok decoded) []
    refine .inr ⟨rfl, .inr (.inr ⟨_, all ▸ List.mem_cons_self, ?_⟩)⟩
    rw [stopsWaiting, decide_eq_true close]
  | givesUpPeer _ decoded =>
    have all := toCome_of_result (result?_of_outcome_error decoded) []
    exact .inr ⟨rfl, .inr (.inr ⟨_, all ▸ List.mem_cons_self, rfl⟩)⟩
  | endsWait other _ ended =>
    rw [waiting] at other
    cases other
    exact .inr ⟨rfl, ended.elim (fun ended => .inr (.inl ended)) .inl⟩
  | usersRun => exact .inl ⟨waiting, fun more => List.suffix_rfl⟩
  | cancelsDialing phase | dialingFails phase | hostUnfit phase | beginsSecuring phase
  | opensPlain phase | cancelsSecuring phase | securingFails phase | opensSecure phase
  | requests phase | readsHead phase | upgrades phase | stops phase | takesSend phase
  | takesClose phase | abandoned phase | pings phase | writes phase | failsToWrite phase =>
    rw [waiting] at phase
    cases phase
  | upgradeFails fails =>
    rcases fails.phase_cases with ⟨_, phase⟩ | ⟨_, _, _, phase⟩ <;>
    · rw [waiting] at phase
      cases phase
  | refuses reads | collects reads | answersPing reads | hearsPong reads | peerCloses reads
  | receives reads | loses reads =>
    have running := reads.running
    rw [waiting] at running
    cases running

/-- As long as reading has not ended, what arrives is all that an input adds. -/
theorem toCome_apply (connection : Connection) (input : Input)
    (openEnded : (connection.apply input).stream.ending = none) (more : Bytes) :
    (connection.apply input).toCome more = connection.toCome (received [input] ++ more) := by
  cases input with
  | arrive bytes =>
    have going : connection.stream.ending = none := by
      dsimp only [apply, ByteStream.arrive] at openEnded
      split at openEnded
      · exact openEnded
      · exact openEnded
    simp [apply, ByteStream.arrive, going, toCome, received]
  | setWrites mode =>
    dsimp only [apply, ByteStream.setWrites]
    split <;> rfl
  | finish ending =>
    dsimp only [apply, ByteStream.finish]
    split <;> rfl
  | socket outcome | secure outcome =>
    dsimp only [apply]
    split <;> rfl
  | call | takeSender | dropSender | dropSocket | advance | cancel => rfl

/-- The wait begins when the client's close frame is out. -/
theorem WritesClose.waits {written : Connection} (writes : connection.WritesClose written) :
    written.phase = .awaitingClose (written.now + written.options.closeTimeout) ∧
      written.now = connection.now ∧ written.options = connection.options := by
  obtain ⟨⟨reason, id, writing⟩, working, step⟩ := writes
  obtain ⟨items, advances⟩ := advances_of_step? step
  refine ⟨?_, congrArg Surroundings.now advances.surroundings_eq,
    congrArg Surroundings.options advances.surroundings_eq⟩
  simp only [step?, advance?, writing, stepWriting, working] at step
  cases step
  cases id <;> rfl

/-- What is over stays over, whatever happens. -/
theorem isOver_apply (finished : connection.isOver = true) (input : Input) :
    (connection.apply input).isOver = true := by
  rw [isOver_iff] at finished ⊢
  rw [(learns_apply connection input).rank_eq, finished]

/-- The wait goes on, or it is over for a reason. -/
theorem WritesClose.closes {written closing : Connection} {later : List Input}
    (writes : connection.WritesClose written) (reaches : Reaches written later closing) :
    Closes written later closing := by
  induction reaches with
  | start => exact .waits writes.waits.1 (by simp) fun _ more => List.suffix_rfl
  | @step later closing next reaches step ih =>
    obtain ⟨items, advances⟩ := advances_of_step? step
    have now : next.now = closing.now := congrArg Surroundings.now advances.surroundings_eq
    have sameEnding : next.stream.ending = closing.stream.ending :=
      congrArg Surroundings.ending advances.surroundings_eq
    cases ih with
    | waits waiting ending coming =>
      rcases advances.waits_or_stops waiting with ⟨still, rest⟩ | ⟨finished, reason⟩
      · refine .waits still (sameEnding ▸ ending) fun openEnded more => ?_
        exact (rest more).trans (coming (sameEnding ▸ openEnded) more)
      · refine .finished finished (now ▸ ?_)
        rcases reason with late | ended | ⟨result, heard, stops⟩
        · exact .late late
        · exact .ended (ending ▸ ended)
        · -- The bytes left over are accounted for only as long as reading has not ended.
          cases openEnded : closing.stream.ending with
          | some _ => exact .ended (by rw [← ending, openEnded]; rfl)
          | none =>
            have all := coming openEnded []
            rw [List.append_nil] at all
            exact .heard (all.subset heard) stops
    | finished finished may => exact .finished (isOver_of_step step finished) (now ▸ may)
  | @apply later closing reaches input ih =>
    cases ih with
    | waits waiting ending coming =>
      refine .waits ?_ ?_ fun openEnded more => ?_
      · have learns := learns_apply closing input
        rw [waiting] at learns
        generalize (closing.apply input).phase = after at learns
        cases learns
        rfl
      · rw [isSome_ending_apply, ending, List.any_append, Bool.or_assoc]
        simp
      · -- Reading was open before the input too, so that all inputs so far added their bytes.
        have isSome := isSome_ending_apply closing input
        rw [openEnded, Option.isSome_none, eq_comm, Bool.or_eq_false_iff] at isSome
        have going : later.any Input.endsReading = false := by
          rw [ending, Bool.or_eq_false_iff] at isSome
          exact isSome.1.2
        rw [toCome_apply closing input openEnded, received_append, going, if_neg Bool.false_ne_true,
          List.append_assoc]
        exact coming (by simpa using isSome.1) _
    | finished finished may => exact .finished (isOver_apply finished input) (may.apply input)

/-! ## Every session -/

/-- The phase of a connection that is upgrading tells when the time for this is up. -/
theorem Fits.upgrading (fits : connection.Fits) (upgrading : connection.state = .upgrading) :
    (∃ deadline, connection.phase = .requesting deadline) ∨
      ∃ request deadline reader, connection.phase = .awaitingHead request deadline reader := by
  unfold Fits at fits
  rw [upgrading] at fits
  cases phase : connection.phase with
  | requesting deadline => exact .inl ⟨deadline, rfl⟩
  | awaitingHead request deadline reader => exact .inr ⟨request, deadline, reader, rfl⟩
  | writing job =>
    rw [phase] at fits
    cases job <;> cases fits
  | _ =>
    rw [phase] at fits
    cases fits

/-- An upgrade that can do nothing has time left. -/
theorem Reaches.early_of_upgrading
    (reaches : Reaches (attach url options nonce keys) inputs connection)
    (upgrading : connection.state = .upgrading) (stuck : connection.advance? = none) :
    connection.now < options.upgradeTimeout := by
  have upTo := reaches.upgradesUntil.2
  rcases (reaches.fits rfl).upgrading upgrading with
    ⟨deadline, requesting⟩ | ⟨request, deadline, reader, waiting⟩
  · rw [requesting] at upTo
    exact upTo deadline rfl ▸ (waits_of_stuck_requesting requesting stuck).2
  · rw [waiting] at upTo
    exact upTo deadline rfl ▸ (waits_of_stuck_head waiting stuck).2.2.2

/-- Nobody is told before its end that the time for the upgrade was up. -/
theorem Reaches.late_of_saysTimedOut
    (reaches : Reaches (attach url options nonce keys) inputs connection) {item : StreamItem}
    (told : item ∈ connection.items) (timedOut : item.saysTimedOut = true) :
    options.upgradeTimeout ≤ connection.now := by
  induction reaches with
  | start =>
    have silent :
        ∀ item ∈ [entered .initialized, entered .streamConnected, entered .upgrading],
          item.saysTimedOut = false := by decide
    rw [silent item (Array.mem_toList_iff.mpr told)] at timedOut
    cases timedOut
  | @step inputs connection next reaches step ih =>
    obtain ⟨items, advances⟩ := advances_of_step? step
    have now : next.now = connection.now := congrArg Surroundings.now advances.surroundings_eq
    rw [← Array.mem_toList_iff, advances.tells.items, List.mem_append] at told
    rcases told with early | late
    · exact now ▸ ih (Array.mem_toList_iff.mp early)
    · split at late
      · obtain ⟨deadline, waiting, past⟩ :=
          advances.late_of_saysTimedOut (List.any_eq_true.mpr ⟨item, late, timedOut⟩)
        rw [reaches.upgradesUntil.2 deadline waiting] at past
        exact now ▸ past
      · cases late
  | apply reaches input ih =>
    rw [items_apply] at told
    exact (ih told).trans (now_apply .. ▸ Nat.le_add_right ..)

/-- Deadlines are exact. An upgrade that can do nothing has time left, and nobody is told before its
end that the time was up. From the moment at which the client's close frame goes out the peer has
the close timeout to answer: a connection that can do nothing and waits for the answer has time
left, and it is over before only if the stream ended or the decoder found a close frame or a
violation. -/
theorem Reaches.deadlines_exact
    (reaches : Reaches (attach url options nonce keys) inputs connection) :
    (connection.state = .upgrading → connection.advance? = none →
        connection.now < options.upgradeTimeout) ∧
      (∀ item ∈ connection.items, item.saysTimedOut = true →
        options.upgradeTimeout ≤ connection.now) ∧
      ∀ written later closing, connection.WritesClose written → Reaches written later closing →
        (closing.isOver = false → closing.advance? = none →
          closing.now < connection.now + options.closeTimeout) ∧
        (closing.isOver = true → written.stream.ending = none →
          later.any Input.endsReading = false →
          (∀ result ∈ written.toCome (received later), stopsWaiting result = false) →
          connection.now + options.closeTimeout ≤ closing.now) := by
  refine ⟨reaches.early_of_upgrading, fun item told => reaches.late_of_saysTimedOut told, ?_⟩
  intro written later closing writes waits
  obtain ⟨-, now, same⟩ := writes.waits
  replace same : written.options = options := same.trans reaches.options_eq
  have closes := writes.closes waits
  rw [← now, ← same]
  constructor
  · intro going stuck
    cases closes with
    | waits waiting => exact (waits_of_stuck_closing waiting stuck).2.2
    | finished finished =>
      rw [finished] at going
      cases going
  · intro finished openEnded unended unheard
    cases closes with
    | waits waiting =>
      rw [isOver, waiting] at finished
      cases finished
    | finished _ may =>
      cases may with
      | late late => exact late
      | ended ended =>
        rw [openEnded, unended] at ended
        cases ended
      | heard coming stops =>
        rw [unheard _ coming] at stops
        cases stops

/-- A server that never takes the request, and one that stops in the middle of its answer, each
until a millisecond before the end of the time for the upgrade. -/
def silences : List (List Input) :=
  [[.setWrites .stalled, .advance 29999], [.arrive (agreement.take 40), .advance 29999]]

/-- A client without an answer waits until the last millisecond and then says that the time was up.
Neither does it end the wait for a close frame before its time when the server sends a text and half
a frame, but no close frame. -/
theorem deadlines_exact_of_trickle :
    (∀ silence ∈ silences,
      let waiting := (silence.foldl apply plainStart).stepUpTo 2
      let finished := (waiting.apply (.advance 1)).stepUpTo 2
      Reaches plainStart silence waiting ∧
        Reaches plainStart (silence ++ [.advance 1]) finished ∧
        waiting.state = .upgrading ∧ waiting.advance? = none ∧ waiting.now = 29999 ∧
        waiting.now < 30000 ∧
        (∃ item ∈ finished.items, item.saysTimedOut = true) ∧ finished.now = 30000 ∧
        30000 ≤ finished.now) ∧
    let connected := (plainStart.apply (.arrive agreement)).stepUpTo 6
    let closing := (connected.apply (.call (.close "bye"))).stepUpTo 1
    let written := closing.stepUpTo 1
    let trickle : List Input := [.arrive [0x81, 0x01, 0x61, 0x88], .advance 4999]
    let waiting := (trickle.foldl apply written).stepUpTo 2
    let finished := (waiting.apply (.advance 1)).stepUpTo 1
    Reaches plainStart [.arrive agreement, .call (.close "bye")] closing ∧
      closing.WritesClose written ∧ Reaches written trickle waiting ∧
      Reaches written (trickle ++ [.advance 1]) finished ∧
      waiting.isOver = false ∧ waiting.advance? = none ∧ waiting.now = 4999 ∧
      waiting.now < closing.now + 5000 ∧
      finished.isOver = true ∧ finished.now = 5000 ∧ closing.now + 5000 ≤ finished.now := by
  constructor
  · have upgrades : ∀ silence ∈ silences,
        let waiting := (silence.foldl apply plainStart).stepUpTo 2
        let finished := (waiting.apply (.advance 1)).stepUpTo 2
        waiting.state = .upgrading ∧ waiting.advance?.isNone = true ∧ waiting.now = 29999 ∧
          finished.items.toList.any StreamItem.saysTimedOut = true ∧ finished.now = 30000 := by
      decide +kernel
    intro silence member waiting finished
    obtain ⟨upgrading, stuck, early, told, late⟩ := upgrades silence member
    rw [Option.isNone_iff_eq_none] at stuck
    obtain ⟨item, told, timedOut⟩ := List.any_eq_true.mp told
    rw [Array.mem_toList_iff] at told
    have waits : Reaches plainStart silence waiting :=
      (Reaches.start.foldl_apply _).stepUpTo 2
    have ends : Reaches plainStart (silence ++ [.advance 1]) finished :=
      (waits.apply _).stepUpTo 2
    exact ⟨waits, ends, upgrading, stuck, early, (Reaches.deadlines_exact waits).1 upgrading stuck,
      ⟨item, told, timedOut⟩, late, (Reaches.deadlines_exact ends).2.1 item told timedOut⟩
  · intro connected closing written trickle waiting finished
    have reaches : Reaches plainStart [.arrive agreement, .call (.close "bye")] closing :=
      (((Reaches.start.apply _).stepUpTo 6).apply _).stepUpTo 1
    obtain ⟨order, working, steps, openEnded⟩ :
        closing.underWay = [⟨0, .close "bye"⟩] ∧ closing.stream.writes = .working ∧
          closing.step?.isSome = true ∧ written.stream.ending = none := by
      decide +kernel
    have writes : closing.WritesClose written := by
      refine ⟨?_, working, step?_of_isSome steps⟩
      unfold underWay at order
      split at order
      · next job writing =>
        cases job with
        | close reason id => exact ⟨reason, id, writing⟩
        | command | keepAlive | pong | echo | refusal => simp [Job.order?] at order
      · cases order
    have waits : Reaches written trickle waiting := (Reaches.start.foldl_apply _).stepUpTo 2
    have ends : Reaches written (trickle ++ [.advance 1]) finished := (waits.apply _).stepUpTo 1
    obtain ⟨going, stuck, early, isOver, late, unheard⟩ :
        waiting.isOver = false ∧ waiting.advance?.isNone = true ∧ waiting.now = 4999 ∧
          finished.isOver = true ∧ finished.now = 5000 ∧
          ∀ result ∈ written.toCome (received (trickle ++ [.advance 1])),
            stopsWaiting result = false := by
      decide +kernel
    rw [Option.isNone_iff_eq_none] at stuck
    have inTime := (Reaches.deadlines_exact reaches).2.2 written
    exact ⟨reaches, writes, waits, ends, going, stuck, early,
      (inTime trickle waiting writes waits).1 going stuck, isOver, late,
      (inTime _ finished writes ends).2 isOver openEnded rfl unheard⟩

end Connection

end WebSocket
