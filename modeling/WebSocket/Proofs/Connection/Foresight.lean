import WebSocket.Proofs.Connection.Ledger
import WebSocket.Proofs.Connection.Reception
import WebSocket.Proofs.Fates

/-! # What lies ahead of a connection

How the peer ends the exchange of frames is a matter of the bytes behind the response head alone
(`judged`). The invariant while frames go both ways is that what a connection has yet to say of its
inbox, its decoder and its assembly (`prospect`) is what all bytes are judged to bring about, also
when more bytes follow (`Reaches.foreseen`).
-/

namespace WebSocket.Connection

variable {connection next : Connection} {items : List StreamItem} {told : List StreamItem}
  {bytes : Bytes}

/-! ## What the bytes of the peer bring about -/

/-- How all bytes of the peer end the exchange, if they do, when reading ends behind them or not. -/
def judged (options : Options) (ending : Option StreamEnd) (bytes : Bytes) : Option Fate :=
  fate? options.messageLimit options.checkUtf8 ending none
    (({ limit := options.payloadLimit } : Decoder).exhaust (Http.bodyOf bytes)).results

/-- How the inbox and more bytes behind it end the exchange, as the connection stands. -/
def prospect (connection : Connection) (ending : Option StreamEnd) (more : Bytes) : Option Fate :=
  fate? connection.assembly.limit connection.options.checkUtf8 ending connection.assembly.open?
    (connection.decoder.exhaust (connection.stream.inbox ++ more)).results

section prospect

variable (ending : Option StreamEnd) (more : Bytes)

theorem prospect_of_error {cause : Violation}
    (decoded : connection.decodeNext.outcome = .error cause) :
    connection.prospect ending more = some (.refused cause) := by
  have given : connection.decodeNext.result? = some (.error cause) := by
    rw [Decoded.result?, decoded]
  rw [prospect, Decoder.exhaust_append_of_result given]
  rfl

theorem prospect_of_frame {frame : Frame}
    (decoded : connection.decodeNext.outcome = .ok (some frame)) :
    connection.prospect ending more =
      fate? connection.assembly.limit connection.options.checkUtf8 ending
        connection.assembly.open? (.ok frame :: (connection.decodeNext.decoder.exhaust
          (connection.decodeNext.rest ++ more)).results) := by
  have given : connection.decodeNext.result? = some (.ok frame) := by
    rw [Decoded.result?, decoded]
  rw [prospect, Decoder.exhaust_append_of_result given]
  rfl

theorem prospect_of_waits (waits : connection.decodeNext.outcome = .ok none) :
    connection.prospect ending more =
      (connection.afterDecoding connection.decodeNext).prospect ending more := by
  rw [prospect, Decoder.exhaust_append_of_waits waits]
  rfl

theorem prospect_nil_of_waits (waits : connection.decodeNext.outcome = .ok none) :
    connection.prospect ending [] = ending.map .lost := by
  have nothing := Decoded.result?_eq_none_iff.mpr waits
  rw [decodeNext] at nothing
  rw [prospect, List.append_nil, Decoder.exhaust_eq, nothing]
  rfl

variable (sound : connection.assembly.Sound) {frame : Frame} (takes : connection.Takes frame)
include sound takes

theorem prospect_of_takes :
    connection.prospect ending more =
      fateAfterPush connection.options.checkUtf8 ending (connection.assembly.push frame)
        (connection.decodeNext.decoder.exhaust (connection.decodeNext.rest ++ more)).results := by
  rw [prospect_of_frame ending more takes.decoded, fate?_push sound takes.unmasked]

theorem prospect_of_message {message : Frame} {after : Assembly}
    (pushed : connection.assembly.push frame = (.ok (some message), after)) :
    connection.prospect ending more =
      message.fateAfter connection.options.checkUtf8
        ((connection.assembled after).prospect ending more) := by
  rw [prospect_of_takes ending more sound takes, pushed]
  rfl

end prospect

theorem isBadText_of_readable {message : Frame}
    (readable : connection.options.checkUtf8 = true → message.opcode = .text →
      message.isUtf8 = true) :
    isBadText connection.options.checkUtf8 message.opcode message.payload = false := by
  unfold isBadText
  cases checked : connection.options.checkUtf8 with
  | false => rfl
  | true =>
    by_cases text : message.opcode = .text
    · simpa [text, Frame.isUtf8] using readable checked text
    · simp [text]

/-- A breach of the protocol is what the bytes bring about. -/
theorem Offends.prospect_eq {cause : Violation} {after : Assembly}
    (offends : connection.Offends cause after) (sound : connection.assembly.Sound)
    (ending : Option StreamEnd) (more : Bytes) :
    connection.prospect ending more = some (.refused cause) := by
  cases offends with
  | undecodable decoded => exact prospect_of_error ending more decoded
  | masked decoded masked =>
    rw [prospect_of_frame ending more decoded]
    simp only [fate?, masked, if_true]
  | unassembled takes pushed =>
    rw [prospect_of_takes ending more sound takes, pushed]
    rfl
  | badClose takes pushed close invalid =>
    rw [prospect_of_message ending more sound takes pushed, Frame.fateAfter, close]
    rw [Frame.closeEcho_eq] at invalid
    dsimp only
    split at invalid
    · cases invalid
      rfl
    · cases invalid
  | @badText frame message takes after pushed checked text invalid =>
    have bad : isBadText connection.options.checkUtf8 message.opcode message.payload = true := by
      simpa [isBadText, checked, text, Frame.isUtf8] using invalid
    rw [prospect_of_message ending more sound takes pushed,
      Frame.fateAfter_of_data (by rw [text]; rfl), if_pos bad]

/-! ## While frames go both ways -/

theorem phase_of_rank (exchanging : connection.phase.rank = 3) :
    connection.phase = .connected ∨
      ∃ job, connection.phase = .writing job ∧ job.isFinal = false := by
  cases phase : connection.phase with
  | connected => exact .inl rfl
  | writing job =>
    refine .inr ⟨job, rfl, ?_⟩
    by_contra final
    rw [Bool.not_eq_false] at final
    simp [phase, Phase.rank, final] at exchanging
  | _ => simp [phase, Phase.rank] at exchanging

theorem Accounts.listens (accounts : connection.Accounts told bytes)
    (exchanging : connection.phase.rank = 3) : connection.Listens told bytes := by
  rcases phase_of_rank exchanging with running | ⟨job, writing, unending⟩
  · rwa [Accounts, running] at accounts
  · rw [Accounts, writing] at accounts
    cases job with
    | command | keepAlive | pong => exact accounts
    | close | echo | refusal => cases unending

theorem rank_of_connected (fits : connection.Fits) (connected : connection.isConnected = true)
    (unrefused : ∀ cause, connection.phase ≠ .writing (.refusal cause)) :
    connection.phase.rank = 3 := by
  simp only [isConnected, decide_eq_true_eq] at connected
  rw [Fits, connected] at fits
  cases phase : connection.phase with
  | connected => rfl
  | writing job =>
    cases job with
    | command | keepAlive | pong => rfl
    | refusal cause => exact absurd phase (unrefused cause)
    | close | echo =>
      rw [phase] at fits
      cases fits
  | _ =>
    rw [phase] at fits
    cases fits

/-! ## Every run -/

/-- While frames go both ways, what is ahead is what all bytes are judged to bring about. -/
def Foreseen (connection : Connection) (bytes : Bytes) : Prop :=
  connection.phase.rank = 3 → ∀ ending more,
    connection.prospect ending more = judged connection.options ending (bytes ++ more)

theorem foreseen_of_rank (other : connection.phase.rank ≠ 3) : connection.Foreseen bytes :=
  fun exchanging => absurd exchanging other

/-- A step that leaves what is ahead as it is. -/
theorem Foreseen.step (foreseen : connection.Foreseen bytes)
    (advances : connection.Advances items next) (exchanging : connection.phase.rank = 3)
    (same : ∀ ending more, connection.prospect ending more = next.prospect ending more) :
    next.Foreseen bytes := by
  have options : next.options = connection.options :=
    congrArg Surroundings.options advances.surroundings_eq
  intro _ ending more
  rw [← same, foreseen exchanging, options]

theorem foreseen_beginExchange {reader after : Http.HeadReader} {head : Http.ResponseHead}
    {rest unread : Bytes} (clean : reader.Clean)
    (whole : reader.buffer ++ connection.stream.inbox = bytes)
    (read : reader.read connection.stream.inbox = (.complete head rest, after, unread))
    (subprotocol : Option String) :
    (connection.beginExchange subprotocol (rest ++ unread)).Foreseen bytes := by
  obtain ⟨length, ends, -, behind⟩ := clean.read_complete read
  rw [whole] at ends behind
  intro _ ending more
  rw [judged, Http.bodyOf_append more ends, ← behind]
  rfl

theorem foreseen_settle {before : Connection} {job : Job} {error : Option TransportError}
    (foreseen : connection.Foreseen bytes) (writing : connection.phase = .writing job)
    (advances : connection.Advances items (before.settle job error))
    (same : ∀ ending more, connection.prospect ending more = before.prospect ending more) :
    (before.settle job error).Foreseen bytes := by
  cases job with
  | command | keepAlive | pong =>
    exact foreseen.step advances (by simp [writing, Phase.rank, Job.isFinal]) same
  | close reason id =>
    exact foreseen_of_rank (by cases id <;> cases error <;> simp [settle, Phase.rank])
  | echo | refusal => exact foreseen_of_rank (by simp [settle, Phase.rank])

/-- Every rule keeps to what is foreseen. -/
theorem Advances.foreseen (advances : connection.Advances items next)
    (accounts : connection.Accounts told bytes) (foreseen : connection.Foreseen bytes) :
    next.Foreseen bytes := by
  have sound (running : connection.phase = .connected) : connection.assembly.Sound := by
    rw [Accounts, running] at accounts
    exact accounts.assembly
  have exchanging (running : connection.phase = .connected) : connection.phase.rank = 3 := by
    rw [running]
    rfl
  have kept := advances
  cases advances with
  | cancelsDialing | dialingFails | hostUnfit | beginsSecuring | opensPlain | cancelsSecuring
  | securingFails | opensSecure | upgradeFails | requests | readsHead | stops | takesClose
  | abandoned | refuses | peerCloses | loses | peerAnswers | givesUpPeer | endsWait =>
    exact foreseen_of_rank (by simp [Phase.rank, startUpgrade, Job.isFinal])
  | upgrades waiting going arrived read =>
    rw [Accounts, waiting] at accounts
    obtain ⟨-, clean, whole⟩ := accounts
    exact foreseen_beginExchange clean whole read _
  | takesSend running | pings running =>
    exact foreseen.step kept (exchanging running) fun _ _ => rfl
  | collects reads takes pushed =>
    refine foreseen.step kept (exchanging reads.running) fun ending more => ?_
    rw [prospect_of_takes ending more (sound reads.running) takes, pushed]
    rfl
  | answersPing reads takes pushed ping =>
    refine foreseen.step kept (exchanging reads.running) fun ending more => ?_
    rw [prospect_of_message ending more (sound reads.running) takes pushed, Frame.fateAfter, ping]
    rfl
  | hearsPong reads takes pushed pong =>
    refine foreseen.step kept (exchanging reads.running) fun ending more => ?_
    rw [prospect_of_message ending more (sound reads.running) takes pushed, Frame.fateAfter, pong]
    rfl
  | receives reads takes pushed data readable =>
    refine foreseen.step kept (exchanging reads.running) fun ending more => ?_
    rw [prospect_of_message ending more (sound reads.running) takes pushed,
      Frame.fateAfter_of_data data, isBadText_of_readable readable, if_neg Bool.false_ne_true]
    rfl
  | keepsPart listening waits =>
    rcases listening with reads | ⟨deadline, waiting⟩
    · exact foreseen.step kept (exchanging reads.running) fun ending more =>
        prospect_of_waits ending more waits
    · exact foreseen_of_rank (by simp [waiting, Phase.rank])
  | dropsFrame waiting => exact foreseen_of_rank (by simp [waiting, Phase.rank])
  | writes writing => exact foreseen_settle foreseen writing kept fun _ _ => rfl
  | failsToWrite writing => exact foreseen_settle foreseen writing kept fun _ _ => rfl
  | usersRun => exact foreseen

/-- What arrives while reading has not ended lies ahead. -/
theorem prospect_apply (connection : Connection) (input : Input) (ending : Option StreamEnd)
    (more : Bytes) :
    (connection.apply input).prospect ending more =
      connection.prospect ending
        ((if connection.stream.ending.isSome then [] else received [input]) ++ more) := by
  have unheard (silent : received [input] = [])
      (same : (connection.apply input).prospect ending more = connection.prospect ending more) :
      (connection.apply input).prospect ending more =
        connection.prospect ending
          ((if connection.stream.ending.isSome then [] else received [input]) ++ more) := by
    rw [silent, ite_self, List.nil_append, same]
  cases input with
  | arrive bytes =>
    have news : received [.arrive bytes] = bytes := List.append_nil bytes
    dsimp only [apply, ByteStream.arrive]
    split
    · rfl
    · rw [news, prospect, prospect, List.append_assoc]
  | finish ending =>
    refine unheard rfl ?_
    dsimp only [apply, ByteStream.finish]
    split <;> rfl
  | setWrites mode =>
    refine unheard rfl ?_
    dsimp only [apply, ByteStream.setWrites]
    split <;> rfl
  | socket outcome | secure outcome =>
    refine unheard rfl ?_
    dsimp only [apply]
    split <;> rfl
  | call | takeSender | dropSender | dropSocket | advance | cancel => exact unheard rfl rfl

/-- Every input keeps to what is foreseen. -/
theorem Foreseen.apply {inputs : List Input} (foreseen : connection.Foreseen (received inputs))
    (ended : connection.stream.ending.isSome = inputs.any Input.endsReading) (input : Input) :
    (connection.apply input).Foreseen (received (inputs ++ [input])) := by
  intro exchanging ending more
  rw [(learns_apply connection input).rank_eq] at exchanging
  rw [prospect_apply, options_apply, received_append, ← ended, List.append_assoc,
    foreseen exchanging]

variable {url : Url} {options : Options} {nonce : Bytes} {keys : Nat → MaskKey}
  {inputs : List Input}

theorem Reaches.foreseen (reaches : Reaches (attach url options nonce keys) inputs connection) :
    connection.Foreseen (received inputs) := by
  induction reaches with
  | start => exact foreseen_of_rank (by simp [attach, startUpgrade, Phase.rank])
  | step reaches step ih =>
    obtain ⟨items, advances⟩ := advances_of_step? step
    obtain ⟨told, accounts, -⟩ := reaches.accounts
    exact advances.foreseen accounts ih
  | apply reaches input ih => exact ih.apply (reaches.isSome_ending rfl) input

/-- While frames go both ways the assembly and the decoder are in order. -/
theorem Reaches.listens (reaches : Reaches (attach url options nonce keys) inputs connection)
    (exchanging : connection.phase.rank = 3) :
    ∃ told, connection.Listens told (received inputs) := by
  obtain ⟨told, accounts, -⟩ := reaches.accounts
  exact ⟨told, accounts.listens exchanging⟩

end WebSocket.Connection
