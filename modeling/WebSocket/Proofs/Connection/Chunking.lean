import WebSocket.Proofs.Connection.Arrivals
import WebSocket.Proofs.Connection.Upgrading

/-! # What is seen does not depend on how the bytes of the peer are cut

A connection that is given bytes in pieces, and runs after each of them, ends up where it would if
all of them had come at once. A cut can fall into a step that reads: then the connection keeps what
it was given and goes on when there is more. In the response head the reader keeps it
(`seen_run_of_head`), behind the head the decoder does (`run_behind_of_keepsPart`). All other steps
are the same with more bytes behind. So the rest of the bytes may as well be there before a run as
come after it (`Calm.seen_run_behind`).
-/

namespace WebSocket

/-- When a phase that waits for bytes ends without them. -/
def Phase.deadline? : Phase → Option Nat
  | awaitingHead _ deadline _ | awaitingClose deadline => some deadline
  | _ => none

namespace Connection

variable {connection next : Connection} {items : List StreamItem} {more : Bytes}

/-! ## Cuts in the response head -/

/-- What becomes of a connection when the response head ends after so many of the bytes. -/
def afterHead (connection : Connection) (request : UpgradeRequest) (bytes : Bytes)
    (length : Nat) : Connection :=
  match Http.ResponseHead.parse? (bytes.take length) with
  | none => connection.failUpgrade (.upgrade (.failed "malformed HTTP response"))
  | some head =>
    match request.verify head with
    | .error cause => connection.failUpgrade (.upgrade cause)
    | .ok subprotocol => connection.beginExchange subprotocol (bytes.drop length)

theorem phase_afterHead (connection : Connection) (request : UpgradeRequest) (bytes : Bytes)
    (length : Nat) :
    (connection.afterHead request bytes length).phase = .ended ∨
      (connection.afterHead request bytes length).phase = .connected := by
  unfold afterHead
  split
  · exact .inl rfl
  · split
    · exact .inl rfl
    · exact .inr rfl

/-- How far the head has been read makes no difference to what is seen once it is complete. -/
theorem seen_run_afterHead (connection : Connection) (unread : Bytes) (phase : Phase)
    (request : UpgradeRequest) (bytes : Bytes) (length : Nat) :
    (({ connection.withInbox unread with phase } : Connection).afterHead request bytes
        length).run.seen =
      (connection.afterHead request bytes length).run.seen := by
  have fails (cause : UpgradeError) :
      (({ connection.withInbox unread with phase } : Connection).failUpgrade
          (.upgrade cause)).run.seen =
        (connection.failUpgrade (.upgrade cause)).run.seen := by
    rw [seen_run_of_ended (phase_failUpgrade ..), seen_run_of_ended (phase_failUpgrade ..)]
    cases cause <;> rfl
  unfold afterHead
  split
  · exact fails _
  · split
    · exact fails _
    · rfl

/-- Bytes behind the head are left for later. -/
theorem afterHead_behind (connection : Connection) (request : UpgradeRequest) {bytes : Bytes}
    {length : Nat} (fits : length ≤ bytes.length) (more : Bytes) :
    (connection.behind more).afterHead request (bytes ++ more) length =
      (connection.afterHead request bytes length).behind more := by
  unfold afterHead
  rw [List.take_append_of_le_length fits, List.drop_append_of_le_length fits]
  split
  · exact failUpgrade_behind ..
  · split
    · exact failUpgrade_behind ..
    · rfl

section head

variable {request : UpgradeRequest} {deadline : Nat} {reader : Http.HeadReader} {length : Nat}

/-- A connection that reads in the head goes on in it or has found its end. -/
theorem step?_of_awaitingHead (more : Bytes)
    (waiting : connection.phase = .awaitingHead request deadline reader)
    (clean : reader.Clean) (going : connection.cancelled = false)
    (arrived : connection.stream.inbox ≠ [])
    (found : Http.headLength? (reader.buffer ++ connection.stream.inbox ++ more) = some length)
    (small : length ≤ Http.maxHead) :
    (∃ after unread, after.Clean ∧
      after.buffer ++ unread = reader.buffer ++ connection.stream.inbox ∧
      connection.step? = some { connection.withInbox unread with
        phase := .awaitingHead request deadline after }) ∨
    Http.headLength? (reader.buffer ++ connection.stream.inbox) = some length ∧
      connection.step? = some
        (connection.afterHead request (reader.buffer ++ connection.stream.inbox) length) := by
  have same {early : Nat}
      (ends : Http.headLength? (reader.buffer ++ connection.stream.inbox) = some early) :
      early = length := by
    have later := Http.headLength?_append more ends
    rw [found] at later
    exact (Option.some.inj later).symm
  have steps {after : Connection}
      (step : connection.stepAwaitingHead request deadline reader = some after) :
      connection.step? = some after := by
    simp [step?, advance?, waiting, step]
  rcases read : reader.read connection.stream.inbox with ⟨scan, after, unread⟩
  cases scan with
  | incomplete scanner =>
    obtain ⟨stillClean, whole⟩ := clean.read_incomplete read
    refine .inl ⟨after, unread, stillClean, whole, steps ?_⟩
    simp [stepAwaitingHead, going, arrived, read]
  | malformed | overflow =>
    have found : (reader.read connection.stream.inbox).1.isUnreadable = true := by
      rw [read]
      rfl
    obtain ⟨early, ends, unreadable⟩ := clean.read_unreadable found
    obtain rfl := same ends
    refine .inr ⟨ends, steps ?_⟩
    simp [stepAwaitingHead, going, arrived, read, afterHead, unreadable]
  | complete head rest =>
    obtain ⟨early, ends, parsed, behind⟩ := clean.read_complete read
    obtain rfl := same ends
    refine .inr ⟨ends, steps ?_⟩
    simp only [stepAwaitingHead, going, read, afterHead, parsed, ← behind]
    cases request.verify head <;> simp [arrived]
  | tooLong =>
    have long := clean.read_tooLong (by rw [read]) found
    omega

/-- Once the whole head has arrived, what is seen depends on the bytes only. -/
theorem seen_run_of_head (connection : Connection) {bytes : Bytes}
    (waiting : connection.phase = .awaitingHead request deadline reader)
    (clean : reader.Clean) (going : connection.cancelled = false)
    (whole : reader.buffer ++ connection.stream.inbox = bytes)
    (found : Http.headLength? bytes = some length) (small : length ≤ Http.maxHead) :
    connection.run.seen = (connection.afterHead request bytes length).run.seen := by
  have steps (connection : Connection) {reader : Http.HeadReader}
      (waiting : connection.phase = .awaitingHead request deadline reader) (clean : reader.Clean)
      (going : connection.cancelled = false)
      (whole : reader.buffer ++ connection.stream.inbox = bytes) := by
    have found : Http.headLength? (reader.buffer ++ connection.stream.inbox) = some length :=
      whole ▸ found
    refine step?_of_awaitingHead [] waiting clean going ?_
      (by rwa [List.append_nil]) small
    intro empty
    rw [empty, List.append_nil, clean.missing] at found
    cases found
  fun_induction run connection generalizing reader with
  | case1 connection idle =>
    rcases steps connection waiting clean going whole with ⟨_, _, _, _, step⟩ | ⟨_, step⟩
    all_goals
      rw [idle] at step
      cases step
  | case2 connection next step ih =>
    rcases steps connection waiting clean going whole with
      ⟨after, unread, stillClean, same, isNext⟩ | ⟨_, isNext⟩
    · obtain rfl := Option.some.inj (step.symm.trans isNext)
      rw [ih rfl stillClean going (same.trans whole)]
      exact seen_run_afterHead ..
    · obtain rfl := Option.some.inj (step.symm.trans isNext)
      rw [whole]

end head

/-! ## Cuts between the parts of a frame -/

/-- Whether the connection waits for frames, with nothing else to do. -/
def IsListening (connection : Connection) : Prop :=
  connection.Reads ∨
    ∃ deadline, connection.phase = .awaitingClose deadline ∧ connection.now < deadline

theorem advance?_of_reads (reads : connection.Reads) :
    connection.advance? = connection.stepReading := by
  simp only [advance?, reads.running, stepConnected, reads.going, reads.noOrder, reads.used,
    Bool.false_eq_true, if_false]
  split
  · next schedule scheduled => simp [reads.noPing schedule scheduled]
  · rfl

theorem advance?_of_waits (listening : connection.IsListening)
    (openEnded : connection.stream.ending = none)
    (waits : connection.decodeNext.outcome = .ok none) :
    connection.advance? = connection.keepPart? := by
  rcases listening with reads | ⟨deadline, waiting, early⟩
  · rw [advance?_of_reads reads]
    simp only [stepReading, waits, openEnded]
  · simp only [advance?, waiting, stepAwaitingClose, waits, openEnded, Option.isSome_none,
      Bool.false_or, decide_eq_true_eq, if_neg (Nat.not_le.mpr early)]

theorem run_of_advance? (step : connection.advance? = some next) : connection.run = next.run := by
  refine run_of_step ?_
  rw [step?, step]

theorem IsListening.behind (listening : connection.IsListening) (more : Bytes) :
    (connection.behind more).IsListening :=
  listening.imp_left fun ⟨running, going, noOrder, used, noPing⟩ =>
    ⟨running, going, noOrder, used, noPing⟩

theorem IsListening.afterDecoding (listening : connection.IsListening) (decoded : Decoded) :
    (connection.afterDecoding decoded).IsListening :=
  listening.imp_left fun ⟨running, going, noOrder, used, noPing⟩ =>
    ⟨running, going, noOrder, used, noPing⟩

/-- What a listening connection makes of a frame or a violation depends on the decoder only through
what it gave. -/
theorem advance?_of_given {other : Connection} (listening : connection.IsListening)
    (others : other.IsListening) (phase : other.phase = connection.phase)
    (decoded : other.decodeNext = connection.decodeNext)
    (taken : other.afterDecoding connection.decodeNext =
      connection.afterDecoding connection.decodeNext)
    (given : connection.decodeNext.outcome ≠ .ok none) :
    ∃ next, connection.advance? = some next ∧ other.advance? = some next := by
  rcases listening with reads | ⟨deadline, waiting, -⟩
  · have otherReads : other.Reads := by
      rcases others with reads | ⟨_, waiting, _⟩
      · exact reads
      · rw [phase, reads.running] at waiting
        cases waiting
    rw [advance?_of_reads reads, advance?_of_reads otherReads]
    simp only [stepReading, decoded, taken]
    cases outcome : connection.decodeNext.outcome with
    | error cause => exact ⟨_, rfl, rfl⟩
    | ok frame =>
      cases frame with
      | none => exact absurd outcome given
      | some frame => exact ⟨_, rfl, rfl⟩
  · simp only [advance?, phase, waiting, stepAwaitingClose, decoded, taken]
    cases outcome : connection.decodeNext.outcome with
    | error cause => exact ⟨_, rfl, rfl⟩
    | ok frame =>
      cases frame with
      | none => exact absurd outcome given
      | some frame =>
        dsimp only
        split <;> exact ⟨_, rfl, rfl⟩

/-- Whether the parts of a frame that are there are kept before or after more bytes arrive makes no
difference. -/
theorem run_behind_of_keepsPart (listening : connection.IsListening)
    (openEnded : connection.stream.ending = none)
    (waits : connection.decodeNext.outcome = .ok none)
    (shorter : connection.decodeNext.rest.length < connection.stream.inbox.length)
    (more : Bytes) :
    ((connection.afterDecoding connection.decodeNext).behind more).run =
      (connection.behind more).run := by
  let whole := connection.behind more
  let kept := (connection.afterDecoding connection.decodeNext).behind more
  have wholeListens : whole.IsListening := listening.behind more
  have keptListens : kept.IsListening := (listening.afterDecoding _).behind more
  have decoded : kept.decodeNext = whole.decodeNext := (Decoder.decode_resume more waits).symm
  by_cases given : whole.decodeNext.outcome = .ok none
  · have shorter : whole.decodeNext.rest.length < whole.stream.inbox.length := by
      have left := Decoder.length_rest_decode kept.decoder kept.stream.inbox
      have before : kept.stream.inbox.length = connection.decodeNext.rest.length + more.length :=
        List.length_append
      have after : whole.stream.inbox.length = connection.stream.inbox.length + more.length :=
        List.length_append
      rw [← decoded, decodeNext]
      omega
    have step : whole.advance? = some (whole.afterDecoding whole.decodeNext) := by
      rw [advance?_of_waits wholeListens openEnded given, keepPart?, if_pos shorter]
    rw [run_of_advance? step]
    by_cases further : kept.decodeNext.rest.length < kept.stream.inbox.length
    · refine run_of_advance? ?_
      rw [advance?_of_waits keptListens openEnded (by rw [decoded, given]), keepPart?,
        if_pos further, decoded]
      rfl
    · -- Nothing more could be taken, so the parts that were kept are all there is to keep.
      have still : kept.decodeNext = ⟨.ok none, kept.decoder, kept.stream.inbox⟩ :=
        Decoder.decode_of_isHungry (Decoder.isHungry_decode waits) (by rw [← given, ← decoded]; rfl)
          (Nat.le_of_not_lt further)
      rw [← decoded, still]
      rfl
  · obtain ⟨next, step, same⟩ := advance?_of_given wholeListens keptListens rfl decoded rfl given
    rw [run_of_advance? step, run_of_advance? same]

/-! ## Nothing but bytes -/

/-- A connection that waits for bytes or makes something of them, while nothing else happens: its
users keep still, no order is left, and no time is up. -/
structure Calm (connection : Connection) (more : Bytes) : Prop where
  late : connection.phase.rank ≤ 4
  openEnded : connection.stream.ending = none
  unable : 0 < connection.phase.rank → connection.callers.canRun = false
  noOrders : 1 < connection.phase.rank → connection.outstanding = []
  early : ∀ deadline ∈ connection.phase.deadline?, connection.now < deadline
  patient : 0 < connection.options.closeTimeout
  /-- The response head is complete with the bytes that are still to arrive. -/
  head : ∀ request deadline reader, connection.phase = .awaitingHead request deadline reader →
    reader.Clean ∧ ∃ length ≤ Http.maxHead,
      Http.headLength? (reader.buffer ++ connection.stream.inbox ++ more) = some length

theorem Calm.behind {first second : Bytes} (calm : connection.Calm (first ++ second)) :
    (connection.behind first).Calm second where
  __ := calm
  head request deadline reader waiting := by
    obtain ⟨clean, found⟩ := calm.head request deadline reader waiting
    refine ⟨clean, ?_⟩
    change ∃ length ≤ Http.maxHead, Http.headLength?
      (reader.buffer ++ (connection.stream.inbox ++ first) ++ second) = some length
    simpa only [List.append_assoc] using found

/-- A calm connection leaves its users alone before it ends. -/
theorem Calm.callers_eq (calm : connection.Calm more) (advances : connection.Advances items next) :
    next.phase = .ended ∨ next.callers = connection.callers := by
  have settled {before : Connection} {job : Job} (error : Option TransportError)
      (writing : connection.phase = .writing job) (same : before.callers = connection.callers) :
      (before.settle job error).phase = .ended ∨
        (before.settle job error).callers = connection.callers := by
    have noOrder : job.order? = none := by
      have noOrders := calm.noOrders (by rw [writing, Phase.rank]; split <;> decide)
      rw [outstanding, underWay, writing, List.append_eq_nil_iff] at noOrders
      simpa using noOrders.1
    have callers := callers_settle before job error
    rw [noOrder] at callers
    cases finished : (before.settle job error).isOver with
    | true => exact .inl (phase_of_isOver finished)
    | false =>
      rw [finished, if_neg Bool.false_ne_true] at callers
      exact .inr (callers.trans same)
  have unordered {command : Command} {queue : List Command}
      (running : connection.phase = .connected)
      (queued : connection.callers.queue = command :: queue) : False := by
    have noOrders := calm.noOrders (by rw [running]; decide)
    simp [outstanding, queued] at noOrders
  cases advances with
  | cancelsDialing | dialingFails | hostUnfit | cancelsSecuring | securingFails | upgradeFails
  | stops | loses | peerAnswers | givesUpPeer | endsWait => exact .inl rfl
  | beginsSecuring | opensPlain | opensSecure => exact .inr (by simp)
  | requests | readsHead | upgrades | abandoned | pings | refuses | collects | answersPing
  | hearsPong | peerCloses | receives | keepsPart | dropsFrame => exact .inr rfl
  | takesSend running going queued | takesClose running going queued =>
    exact (unordered running queued).elim
  | writes writing => exact settled none writing rfl
  | failsToWrite writing => exact settled _ writing rfl
  | usersRun stuck able =>
    refine .inl (phase_of_isOver (isOver_iff.mpr ?_))
    by_contra alive
    rw [calm.unable (Nat.pos_of_ne_zero alive)] at able
    cases able

/-- No time that a calm connection waits for bytes is up, be it one that goes on or one that begins
with the step. -/
theorem Calm.early_of_advances (calm : connection.Calm more)
    (advances : connection.Advances items next) :
    ∀ deadline ∈ next.phase.deadline?, connection.now < deadline := by
  have late := calm.late
  have same (phase : next.phase = connection.phase) :
      ∀ deadline ∈ next.phase.deadline?, connection.now < deadline := phase ▸ calm.early
  have settled {before : Connection} (job : Job) (error : Option TransportError)
      (now : before.now = connection.now) (options : before.options = connection.options) :
      ∀ deadline ∈ (before.settle job error).phase.deadline?, connection.now < deadline := by
    have patient := calm.patient
    cases job with
    | close reason id => cases id <;> cases error <;> simp [settle, Phase.deadline?, *]
    | command | keepAlive | pong | echo | refusal => simp [settle, Phase.deadline?]
  cases advances with
  | beginsSecuring phase | opensPlain phase | opensSecure phase | requests phase =>
    simp [phase, Phase.rank] at late
  | cancelsDialing | dialingFails | hostUnfit | cancelsSecuring | securingFails | upgradeFails
  | upgrades | stops | takesSend | takesClose | abandoned | pings | refuses | answersPing
  | peerCloses | loses | peerAnswers | givesUpPeer | endsWait =>
    simp [Phase.deadline?, beginExchange]
  | readsHead waiting =>
    have early := calm.early
    rwa [waiting] at early
  | collects | hearsPong | receives | keepsPart | dropsFrame | usersRun => exact same rfl
  | @writes job => exact settled job none rfl rfl
  | @failsToWrite job => exact settled job _ rfl rfl

/-- A calm connection that could go on if its users ran can go on by itself. -/
theorem Calm.advance?_eq (calm : connection.Calm more) (alive : 0 < connection.phase.rank)
    (step : connection.step? = some next) : connection.advance? = some next := by
  unfold step? at step
  split at step
  · next advanced => exact advanced.trans step
  · rw [calm.unable alive] at step
    cases step

section head

variable {request : UpgradeRequest} {deadline : Nat} {reader : Http.HeadReader}

/-- What a calm connection does with the response head, when the head will be complete with the
bytes that are still to arrive. -/
theorem Calm.next_of_awaitingHead (calm : connection.Calm more)
    (waiting : connection.phase = .awaitingHead request deadline reader)
    (going : connection.cancelled = false) (step : connection.step? = some next) :
    ∃ length ≤ Http.maxHead,
      Http.headLength? (reader.buffer ++ connection.stream.inbox ++ more) = some length ∧
        ((∃ after unread, after.Clean ∧
          after.buffer ++ unread = reader.buffer ++ connection.stream.inbox ∧
          next = { connection.withInbox unread with
            phase := .awaitingHead request deadline after }) ∨
        Http.headLength? (reader.buffer ++ connection.stream.inbox) = some length ∧ next =
          connection.afterHead request (reader.buffer ++ connection.stream.inbox) length) := by
  obtain ⟨clean, length, small, found⟩ := calm.head request deadline reader waiting
  have alive : 0 < connection.phase.rank := by simp [waiting, Phase.rank]
  have early : connection.now < deadline := calm.early deadline (by rw [waiting]; rfl)
  have arrived : connection.stream.inbox ≠ [] := by
    intro empty
    have advanced := calm.advance?_eq alive step
    simp [advance?, waiting, stepAwaitingHead, going, empty, calm.openEnded,
      Nat.not_le.mpr early] at advanced
  refine ⟨length, small, found, ?_⟩
  rcases step?_of_awaitingHead more waiting clean going arrived found small with
    ⟨after, unread, stillClean, whole, same⟩ | ⟨ends, same⟩
  · rw [step, Option.some.injEq] at same
    exact .inl ⟨after, unread, stillClean, whole, same⟩
  · rw [step, Option.some.injEq] at same
    exact .inr ⟨ends, same⟩

/-- As long as it reads in the head, a calm connection keeps all of it. -/
theorem Calm.head_of_step (calm : connection.Calm more) (step : connection.step? = some next)
    (after : next.phase = .awaitingHead request deadline reader) :
    reader.Clean ∧ ∃ length ≤ Http.maxHead,
      Http.headLength? (reader.buffer ++ next.stream.inbox ++ more) = some length := by
  have rank : connection.phase.rank = 4 := by
    have lower := rank_le_of_step step
    rw [after, Phase.rank] at lower
    exact Nat.le_antisymm calm.late lower
  obtain ⟨request, deadline, before, waiting⟩ :
      ∃ request deadline reader, connection.phase = .awaitingHead request deadline reader := by
    cases phase : connection.phase with
    | awaitingHead request deadline reader => exact ⟨_, _, _, rfl⟩
    | writing job => cases final : job.isFinal <;> simp [phase, Phase.rank, final] at rank
    | _ => simp [phase, Phase.rank] at rank
  cases going : connection.cancelled with
  | true =>
    have advanced := calm.advance?_eq (by rw [rank]; decide) step
    simp only [advance?, waiting, stepAwaitingHead, going, if_true, Option.some.injEq] at advanced
    simp [← advanced] at after
  | false =>
    obtain ⟨length, small, found, ⟨reader, unread, clean, whole, rfl⟩ | ⟨-, rfl⟩⟩ :=
      calm.next_of_awaitingHead waiting going step
    · cases after
      exact ⟨clean, length, small, whole ▸ found⟩
    · rcases phase_afterHead connection request _ length with ended | running
      · rw [ended] at after
        cases after
      · rw [running] at after
        cases after

end head

theorem Calm.step (calm : connection.Calm more) (step : connection.step? = some next) :
    next.Calm more := by
  obtain ⟨items, advances⟩ := advances_of_step? step
  have surroundings := advances.surroundings_eq
  have options : next.options = connection.options := congrArg Surroundings.options surroundings
  have now : next.now = connection.now := congrArg Surroundings.now surroundings
  have rank := rank_le_of_step step
  refine ⟨rank.trans calm.late, ?_, fun alive => ?_, fun unended => ?_, ?_, ?_, ?_⟩
  · exact (congrArg Surroundings.ending surroundings).trans calm.openEnded
  · rcases calm.callers_eq advances with ended | callers
    · rw [ended] at alive
      cases alive
    · rw [callers]
      exact calm.unable (alive.trans_le rank)
  · obtain ⟨dropped, balances⟩ := advances.balances
    have orders := balances.outstanding
    rw [calm.noOrders (unended.trans_le rank)] at orders
    simp only [List.nil_eq, List.append_eq_nil_iff] at orders
    exact orders.1.2
  · rw [now]
    exact calm.early_of_advances advances
  · rw [options]
    exact calm.patient
  · exact fun _ _ _ after => calm.head_of_step step after

theorem Calm.run (calm : connection.Calm more) : connection.run.Calm more := by
  fun_induction Connection.run connection with
  | case1 => exact calm
  | case2 connection next step ih => exact ih (calm.step step)

theorem Calm.seen_run_step_of_awaitingHead {request : UpgradeRequest} {deadline : Nat}
    {reader : Http.HeadReader} (calm : connection.Calm more)
    (waiting : connection.phase = .awaitingHead request deadline reader)
    (going : connection.cancelled = false) (step : connection.step? = some next) :
    (next.behind more).run.seen = (connection.behind more).run.seen := by
  have clean := (calm.head request deadline reader waiting).1
  obtain ⟨length, small, found, reads⟩ := calm.next_of_awaitingHead waiting going step
  rw [List.append_assoc] at found
  rw [seen_run_of_head (connection.behind more) waiting clean going rfl found small]
  rcases reads with ⟨after, unread, stillClean, whole, rfl⟩ | ⟨ends, rfl⟩
  · have whole : after.buffer ++ (unread ++ more) =
        reader.buffer ++ (connection.stream.inbox ++ more) := by
      rw [← List.append_assoc, whole, List.append_assoc]
    let later : Connection :=
      { (connection.behind more).withInbox (unread ++ more) with
        phase := .awaitingHead request deadline after }
    have read := seen_run_of_head later rfl stillClean going whole found small
    exact read.trans (seen_run_afterHead ..)
  · have fits := (Http.bounds_of_headLength? ends).2
    rw [← afterHead_behind connection request fits more, List.append_assoc]
    rfl

theorem Calm.seen_run_step_of_listening (calm : connection.Calm more)
    (alive : 0 < connection.phase.rank) (listening : connection.IsListening)
    (waits : connection.decodeNext.outcome = .ok none) (step : connection.step? = some next) :
    (next.behind more).run.seen = (connection.behind more).run.seen := by
  have kept := calm.advance?_eq alive step
  rw [advance?_of_waits listening calm.openEnded waits, keepPart?] at kept
  split at kept
  · next shorter =>
    cases kept
    rw [run_behind_of_keepsPart listening calm.openEnded waits shorter]
  · cases kept

/-- More bytes may as well be there before a step as come after it. -/
theorem Calm.seen_run_step (calm : connection.Calm more) (step : connection.step? = some next) :
    (next.behind more).run.seen = (connection.behind more).run.seen := by
  by_cases decided : connection.Decided
  · have same : (connection.behind more).step? = some (next.behind more) := by
      rw [step?_behind decided, step]
      rfl
    rw [run_of_step same]
  · unfold Decided at decided
    split at decided
    · next request deadline reader waiting =>
      rw [Bool.not_eq_true] at decided
      exact calm.seen_run_step_of_awaitingHead waiting decided step
    · next running =>
      push Not at decided
      have alive : 0 < connection.phase.rank := by simp [running, Phase.rank]
      exact calm.seen_run_step_of_listening alive (.inl decided.1) decided.2 step
    · next deadline waiting =>
      have alive : 0 < connection.phase.rank := by simp [waiting, Phase.rank]
      have early := calm.early deadline (by rw [waiting]; rfl)
      exact calm.seen_run_step_of_listening alive (.inr ⟨deadline, waiting, early⟩)
        (not_not.mp decided) step
    all_goals exact absurd trivial decided

/-- More bytes may as well be there before a run as come after it. -/
theorem Calm.seen_run_behind (calm : connection.Calm more) :
    (connection.run.behind more).run.seen = (connection.behind more).run.seen := by
  fun_induction Connection.run connection with
  | case1 => rfl
  | case2 connection next step ih => exact (ih (calm.step step)).trans (calm.seen_run_step step)

/-! ## Cutting what the peer sends -/

/-- A connection that is given bytes in pieces, and goes on after each of them. -/
def feed (connection : Connection) (pieces : List Bytes) : Connection :=
  connection.playAll (pieces.map fun piece => [.arrive piece])

/-- All that matters about the pieces is what they are together. -/
theorem Calm.seen_feed {pieces : List Bytes} (calm : connection.Calm pieces.flatten)
    (idle : connection.step? = none) :
    (connection.feed pieces).seen = (connection.behind pieces.flatten).run.seen := by
  induction pieces generalizing connection with
  | nil =>
    have same : connection.behind [].flatten = connection := by simp [Connection.behind, withInbox]
    rw [same, run_of_idle idle]
    rfl
  | cons piece pieces ih =>
    have fed : connection.feed (piece :: pieces) = (connection.behind piece).run.feed pieces := by
      rw [← apply_arrive_of_open calm.openEnded piece]
      rfl
    have next : (connection.behind piece).run.Calm pieces.flatten := calm.behind.run
    rw [fed, ih next (step?_run _), calm.behind.seen_run_behind, behind_behind, List.flatten_cons]

/-- A connection that does not wait for bytes takes no notice of them. -/
theorem seen_feed_of_decided (decided : connection.Decided) (idle : connection.step? = none)
    (pieces : List Bytes) : (connection.feed pieces).seen = connection.seen := by
  suffices ∀ before, ((connection.behind before).feed pieces).seen = connection.seen by
    simpa [behind, withInbox] using this []
  induction pieces with
  | nil => exact fun before => rfl
  | cons piece pieces ih =>
    intro before
    obtain ⟨after, arrives⟩ : ∃ after,
        (connection.behind before).apply (.arrive piece) = connection.behind after := by
      cases ending : connection.stream.ending with
      | none =>
        refine ⟨before ++ piece, ?_⟩
        have openEnded : (connection.behind before).stream.ending = none := ending
        rw [← behind_behind, apply_arrive_of_open openEnded]
      | some _ => exact ⟨before, apply_arrive_of_ended (by simp [behind, withInbox, ending]) piece⟩
    have still : (connection.behind after).run = connection.behind after :=
      run_of_idle (by rw [step?_behind decided, idle]; rfl)
    have fed : (connection.behind before).feed (piece :: pieces) =
        (connection.behind after).feed pieces := by
      rw [← still, ← arrives]
      rfl
    rw [fed, ih]

section sessions

variable {url : Url} {options : Options} {nonce : Bytes} {keys : Nat → MaskKey}
  {inputs : List Input}

/-- No orders are placed before the connection is connected. -/
theorem Reaches.outstanding_of_upgrading
    (reaches : Reaches (attach url options nonce keys) inputs connection)
    (upgrading : 4 ≤ connection.phase.rank) : connection.outstanding = [] := by
  induction reaches with
  | start =>
    rw [outstanding, callers_attach]
    rfl
  | step reaches step ih =>
    obtain ⟨items, advances⟩ := advances_of_step? step
    obtain ⟨dropped, balances⟩ := advances.balances
    have orders := balances.outstanding
    rw [ih (upgrading.trans (rank_le_of_step step))] at orders
    simp only [List.nil_eq, List.append_eq_nil_iff] at orders
    exact orders.1.2
  | @apply inputs connection reaches input ih =>
    rw [(learns_apply ..).rank_eq] at upgrading
    have refused : connection.isConnected = false :=
      (reaches.fits (fits_attach ..)).not_connected (.inr upgrading)
    rw [(adds_apply connection input).outstanding, ih upgrading, List.nil_append]
    cases makes : connection.made? input with
    | none => rfl
    | some made =>
      rw [Option.bind_some, order?_of_not_connected refused makes]
      rfl

/-- A connection with nothing to do that waits for bytes is calm when more of them arrive. -/
theorem Reaches.calm (valid : options.validate = .ok ())
    (reaches : Reaches (attach url options nonce keys) inputs connection)
    (idle : connection.step? = none) (undecided : ¬ connection.Decided) {bytes : Bytes}
    (head : ∃ length ≤ Http.maxHead,
      Http.headLength? (received inputs ++ bytes) = some length) :
    connection.Calm bytes := by
  obtain ⟨stuck, unable⟩ := stuck_of_idle idle
  have patient : 0 < connection.options.closeTimeout := by
    rw [reaches.options_eq]
    exact (Options.validate_eq_ok_iff.mp valid).closeTimeout_pos
  unfold Decided at undecided
  split at undecided
  · next request deadline reader waiting =>
    obtain ⟨-, -, openEnded, early⟩ := waits_of_stuck_head waiting stuck
    obtain ⟨clean, whole⟩ := reaches.reading waiting
    refine ⟨?_, openEnded, fun _ => unable, fun _ => ?_, ?_, patient, ?_⟩
    · exact Nat.le_of_eq (by rw [waiting, Phase.rank])
    · exact reaches.outstanding_of_upgrading (Nat.le_of_eq (by rw [waiting, Phase.rank]))
    · simpa [waiting, Phase.deadline?] using early
    · intro _ _ _ same
      rw [waiting] at same
      cases same
      exact ⟨clean, whole ▸ head⟩
  · next running =>
    obtain ⟨reads, -, openEnded⟩ := waits_of_stuck running stuck
    have noneWait : connection.callers.waiting = [] := by
      by_contra some
      simp [Callers.canRun, reads.noOrder, some, queueCapacity] at unable
    refine ⟨?_, openEnded, fun _ => unable, fun _ => ?_, ?_, patient, ?_⟩
    · simp [running, Phase.rank]
    · simp [outstanding, underWay, running, reads.noOrder, noneWait]
    · simp [running, Phase.deadline?]
    · simp [running]
  · next deadline waiting =>
    obtain ⟨-, openEnded, early⟩ := waits_of_stuck_closing waiting stuck
    refine ⟨?_, openEnded, fun _ => unable, ?_, ?_, patient, ?_⟩
    · simp [waiting, Phase.rank]
    · simp [waiting, Phase.rank]
    · simpa [waiting, Phase.deadline?] using early
    · simp [waiting]
  all_goals exact absurd trivial undecided

/-- What is seen of a session after the server sent so many bytes with a response head of a size
that is allowed does not depend on how they were cut. -/
theorem Reaches.seen_feed_eq (valid : options.validate = .ok ())
    (reaches : Reaches (attach url options nonce keys) inputs connection)
    (idle : connection.step? = none) {pieces others : List Bytes}
    (same : pieces.flatten = others.flatten)
    (head : ∃ length ≤ Http.maxHead,
      Http.headLength? (received inputs ++ pieces.flatten) = some length) :
    (connection.feed pieces).seen = (connection.feed others).seen := by
  by_cases decided : connection.Decided
  · rw [seen_feed_of_decided decided idle, seen_feed_of_decided decided idle]
  · rw [(reaches.calm valid idle decided head).seen_feed idle,
      (reaches.calm valid idle decided (same ▸ head)).seen_feed idle, same]

/-- A cut falls into the line breaks that end the head, and another one into the first frame. -/
theorem seen_feed_eq_of_cut_line_break :
    let bytes := agreement ++ [0x89, 0x01, 0x70, 0x81, 0x02, 0x61, 0x62]
    let first := bytes.take (agreement.length - 2)
    let second := (bytes.drop (agreement.length - 2)).take 3
    let pieces := [first, second, bytes.drop (agreement.length + 1)]
    let waiting := plainStart.stepUpTo 1
    ({} : Options).validate = .ok () ∧ Reaches plainStart [] waiting ∧ waiting.step? = none ∧
      pieces.flatten = [bytes].flatten ∧
      (∃ length ≤ Http.maxHead,
        Http.headLength? (received [] ++ pieces.flatten) = some length) ∧
      (waiting.feed pieces).items.toList.drop 5 =
        [.framed .pingReceived (.ping [0x70]), .status .pongSent,
          .framed .dataReceived (.text [0x61, 0x62])] ∧
      (waiting.feed pieces).seen = (waiting.feed [bytes]).seen := by
  intro bytes first second pieces waiting
  have valid : ({} : Options).validate = .ok () := rfl
  have reaches : Reaches plainStart [] waiting := Reaches.start.stepUpTo 1
  have idle : waiting.step? = none := by
    rw [← Option.isNone_iff_eq_none]
    decide +kernel
  have same : pieces.flatten = [bytes].flatten := by decide +kernel
  have head : ∃ length ≤ Http.maxHead,
      Http.headLength? (received [] ++ pieces.flatten) = some length :=
    ⟨agreement.length, by decide +kernel⟩
  have seen := Reaches.seen_feed_eq valid reaches idle same head
  refine ⟨valid, reaches, idle, same, head, ?_, seen⟩
  obtain ⟨ended, items⟩ :
      ((waiting.apply (.arrive bytes)).stepUpTo 8).step?.isNone = true ∧
        ((waiting.apply (.arrive bytes)).stepUpTo 8).items.toList.drop 5 =
          [.framed .pingReceived (.ping [0x70]), .status .pongSent,
            .framed .dataReceived (.text [0x61, 0x62])] := by
    decide +kernel
  rw [Option.isNone_iff_eq_none] at ended
  have whole : waiting.feed [bytes] = (waiting.apply (.arrive bytes)).stepUpTo 8 :=
    (run_stepUpTo _ 8).symm.trans (run_of_idle ended)
  rw [show (waiting.feed pieces).items = (waiting.feed [bytes]).items from congrArg Seen.items seen,
    whole]
  exact items

end sessions

end Connection

end WebSocket
