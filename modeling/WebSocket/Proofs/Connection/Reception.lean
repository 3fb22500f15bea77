import Mathlib.Data.List.TakeWhile
import WebSocket.Proofs.Connection.Runs
import WebSocket.Proofs.Http.HeadSearch
import WebSocket.Proofs.Traffic

/-! # Received traffic is reported exactly

Whatever its users do, however its writes go and in whatever pieces the bytes arrive, a connection
reports of its peer's traffic what one pass over the bytes behind the response head says
(`deserved`). The invariant while frames go both ways is that what was reported and what the
connection has yet to say of its inbox, its decoder and its assembly are together what the bytes
deserve, also when more bytes follow (`Listens`). Up to the closing of the connection the events
with frames are a prefix of what is deserved, and all of it when the connection waits for more.
-/

namespace WebSocket

namespace Connection

open StreamItem (entered framed)

/-! ## Events with frames -/

/-- The events that have a frame. -/
def framedEvents : List StreamItem → List Event :=
  List.filterMap fun
    | .event event => if event.frame.isSome then some event else none
    | .failure _ => none

/-- The events with frames up to the point at which the connection begins to close. A close frame of
the peer that makes it do so comes before that point. -/
def eventsBeforeClosing (items : List StreamItem) : List Event :=
  framedEvents (items.takeWhile (· ≠ entered .disconnecting))

variable {told items : List StreamItem}

theorem takeWhile_of_not_mem (running : entered .disconnecting ∉ told) :
    told.takeWhile (· ≠ entered .disconnecting) = told := by
  rw [List.takeWhile_eq_self_iff]
  intro item member
  rw [decide_eq_true_eq]
  rintro rfl
  exact running member

theorem framedEvents_append (told items : List StreamItem) :
    framedEvents (told ++ items) = framedEvents told ++ framedEvents items :=
  List.filterMap_append

theorem eventsBeforeClosing_of_not_mem (running : entered .disconnecting ∉ told) :
    eventsBeforeClosing told = framedEvents told := by
  rw [eventsBeforeClosing, takeWhile_of_not_mem running]

/-- As long as the connection does not begin to close, all that is told counts. -/
theorem eventsBeforeClosing_append (running : entered .disconnecting ∉ told) :
    eventsBeforeClosing (told ++ items) = framedEvents told ++ eventsBeforeClosing items := by
  have whole := takeWhile_of_not_mem running
  rw [eventsBeforeClosing, List.takeWhile_append, if_pos (by rw [whole]), framedEvents_append]
  rfl

/-- Once it has begun to close, nothing that is told counts. -/
theorem eventsBeforeClosing_append_of_mem (closing : entered .disconnecting ∈ told) :
    eventsBeforeClosing (told ++ items) = eventsBeforeClosing told := by
  rw [eventsBeforeClosing, List.takeWhile_append, if_neg, eventsBeforeClosing]
  intro whole
  have same := (List.takeWhile_prefix _).eq_of_length whole
  rw [List.takeWhile_eq_self_iff] at same
  simpa using same _ closing

/-- Items without frames never count. -/
theorem eventsBeforeClosing_append_of_framedEvents (silent : framedEvents items = []) :
    eventsBeforeClosing (told ++ items) = eventsBeforeClosing told := by
  by_cases closing : entered .disconnecting ∈ told
  · exact eventsBeforeClosing_append_of_mem closing
  · have early : eventsBeforeClosing items <+: framedEvents items :=
      (List.takeWhile_prefix _).filterMap _
    rw [silent, List.prefix_nil] at early
    rw [eventsBeforeClosing_append closing, early, List.append_nil,
      eventsBeforeClosing_of_not_mem closing]

theorem eventsBeforeClosing_mono {whole : List StreamItem} (early : told <+: whole) :
    eventsBeforeClosing told <+: eventsBeforeClosing whole := by
  obtain ⟨items, rfl⟩ := early
  by_cases closing : entered .disconnecting ∈ told
  · exact eventsBeforeClosing_append_of_mem closing ▸ List.prefix_rfl
  · rw [eventsBeforeClosing_append closing, eventsBeforeClosing_of_not_mem closing]
    exact List.prefix_append ..

/-! ## What the bytes of the peer deserve -/

def Input.endsReading : Input → Bool
  | .finish _ => true
  | _ => false

/-- The bytes that arrive before reading ends. -/
def received : List Input → Bytes
  | [] => []
  | .arrive bytes :: later => bytes ++ received later
  | .finish _ :: _ => []
  | _ :: later => received later

theorem received_append (inputs more : List Input) :
    received (inputs ++ more) =
      received inputs ++ if inputs.any Input.endsReading then [] else received more := by
  induction inputs with
  | nil => rfl
  | cons first inputs ih => cases first <;> simp [received, ih, Input.endsReading]

/-- The events that all bytes of the peer deserve: those of the frames behind the response head. -/
def deserved (options : Options) (bytes : Bytes) : List Event :=
  reports options.messageLimit none
    (({ limit := options.payloadLimit } : Decoder).exhaust (Http.bodyOf bytes)).results

/-- The events that the inbox and more bytes behind it deserve, as the connection stands. -/
def ahead (connection : Connection) (more : Bytes) : List Event :=
  reports connection.assembly.limit connection.assembly.open?
    (connection.decoder.exhaust (connection.stream.inbox ++ more)).results

/-- While frames go both ways: what was reported and what is ahead are what all bytes deserve. -/
structure Listens (connection : Connection) (told : List StreamItem) (bytes : Bytes) : Prop where
  running : entered .disconnecting ∉ told
  exact : ∀ more,
    framedEvents told ++ connection.ahead more = deserved connection.options (bytes ++ more)
  assembly : connection.assembly.Sound
  decoder : connection.decoder.stage.IsLegal connection.decoder.limit

/-- What was reported is part of what all bytes deserve. -/
def Within (connection : Connection) (told : List StreamItem) (bytes : Bytes) : Prop :=
  eventsBeforeClosing told <+: deserved connection.options bytes

/-- Nothing was reported that counts. -/
structure Silent (told : List StreamItem) : Prop where
  running : entered .disconnecting ∉ told
  silent : framedEvents told = []

/-- What was told and what is still in the inbox account for the bytes of the peer. -/
def Accounts (connection : Connection) (told : List StreamItem) (bytes : Bytes) : Prop :=
  match connection.phase with
  | .dialing .. | .securing _ => False
  | .requesting _ => Silent told ∧ connection.stream.inbox = bytes
  | .awaitingHead _ _ reader =>
    Silent told ∧ reader.Clean ∧ reader.buffer ++ connection.stream.inbox = bytes
  | .connected | .writing (.command ..) | .writing .keepAlive | .writing (.pong _) =>
    connection.Listens told bytes
  | .writing (.close ..) | .awaitingClose _ =>
    entered .disconnecting ∈ told ∧ connection.Within told bytes
  | .writing (.refusal _) | .writing (.echo _) | .ended => connection.Within told bytes

variable {connection next : Connection} {bytes : Bytes}

/-- More bytes only add to what all bytes deserve. -/
theorem deserved_append (options : Options) (bytes more : Bytes) :
    deserved options bytes <+: deserved options (bytes ++ more) := by
  unfold deserved
  cases found : Http.headLength? bytes with
  | none =>
    have nothing : ({ limit := options.payloadLimit } : Decoder).exhaust [] =
        { decoder := { limit := options.payloadLimit } } := by
      rw [Decoder.exhaust_eq]
      rfl
    rw [Http.bodyOf, found]
    dsimp only
    rw [nothing]
    exact List.nil_prefix
  | some length =>
    rw [Http.bodyOf_append more found, Http.bodyOf, found, ← Decoder.feed_exhaust]
    exact reports_append ..

/-- The account is about the phase, the inbox, the decoder, the assembly and the options only, and
bytes that arrive are accounted for as a part of the inbox. -/
theorem Accounts.arrive (accounts : connection.Accounts told bytes) (more : Bytes)
    (phase : next.phase = connection.phase)
    (inbox : next.stream.inbox = connection.stream.inbox ++ more)
    (decoder : next.decoder = connection.decoder) (assembly : next.assembly = connection.assembly)
    (options : next.options = connection.options) : next.Accounts told (bytes ++ more) := by
  have listens (listens : connection.Listens told bytes) : next.Listens told (bytes ++ more) := by
    have sound := listens.assembly
    have legal := listens.decoder
    rw [← assembly] at sound
    rw [← decoder] at legal
    refine ⟨listens.running, fun later => ?_, sound, legal⟩
    rw [options, List.append_assoc, ← listens.exact (more ++ later), ahead, ahead, inbox, decoder,
      assembly, List.append_assoc]
  have within (within : connection.Within told bytes) : next.Within told (bytes ++ more) := by
    rw [Within, options]
    exact within.trans (deserved_append ..)
  unfold Accounts at accounts ⊢
  rw [phase, inbox]
  generalize connection.phase = kind at accounts ⊢
  cases kind with
  | dialing | securing => exact accounts
  | requesting => exact ⟨accounts.1, by rw [accounts.2]⟩
  | awaitingHead request deadline reader =>
    exact ⟨accounts.1, accounts.2.1, by rw [← List.append_assoc, accounts.2.2]⟩
  | connected => exact listens accounts
  | awaitingClose => exact ⟨accounts.1, within accounts.2⟩
  | ended => exact within accounts
  | writing job =>
    cases job with
    | command | keepAlive | pong => exact listens accounts
    | close => exact ⟨accounts.1, within accounts.2⟩
    | refusal | echo => exact within accounts

theorem Accounts.congr (accounts : connection.Accounts told bytes)
    (phase : next.phase = connection.phase)
    (inbox : next.stream.inbox = connection.stream.inbox)
    (decoder : next.decoder = connection.decoder) (assembly : next.assembly = connection.assembly)
    (options : next.options = connection.options) : next.Accounts told bytes := by
  have same := accounts.arrive [] phase (by rw [inbox, List.append_nil]) decoder assembly options
  rwa [List.append_nil] at same

/-! ## One call of the decoder -/

theorem ahead_of_frame {frame : Frame} (decoded : connection.decodeNext.outcome = .ok (some frame))
    (more : Bytes) :
    connection.ahead more =
      reports connection.assembly.limit connection.assembly.open?
        (.ok frame :: (connection.decodeNext.decoder.exhaust
          (connection.decodeNext.rest ++ more)).results) := by
  have given : connection.decodeNext.result? = some (.ok frame) := by
    rw [Decoded.result?, decoded]
  rw [ahead, Decoder.exhaust_append_of_result given]
  rfl

theorem ahead_of_waits (waits : connection.decodeNext.outcome = .ok none) (more : Bytes) :
    connection.ahead more = (connection.afterDecoding connection.decodeNext).ahead more := by
  rw [ahead, Decoder.exhaust_append_of_waits waits]
  rfl

theorem ahead_nil_of_waits (waits : connection.decodeNext.outcome = .ok none) :
    connection.ahead [] = [] := by
  have nothing := Decoded.result?_eq_none_iff.mpr waits
  rw [decodeNext] at nothing
  rw [ahead, List.append_nil, Decoder.exhaust_eq, nothing]
  rfl

/-- A frame that was taken is dealt with as the pass over the frames deals with it. -/
theorem Listens.ahead_of_takes (listens : connection.Listens told bytes) {frame : Frame}
    (takes : connection.Takes frame) (more : Bytes) :
    connection.ahead more =
      heardAfter (connection.assembly.push frame)
        (connection.decodeNext.decoder.exhaust (connection.decodeNext.rest ++ more)).results := by
  have legal :=
    (Decoder.decode_legal listens.decoder connection.stream.inbox).frame frame takes.decoded
  rw [ahead_of_frame takes.decoded, reports_push listens.assembly legal takes.unmasked]

theorem Listens.ahead_of_message (listens : connection.Listens told bytes) {frame message : Frame}
    (takes : connection.Takes frame) {after : Assembly}
    (pushed : connection.assembly.push frame = (.ok (some message), after)) (more : Bytes) :
    connection.ahead more = heard message ((connection.assembled after).ahead more) := by
  rw [listens.ahead_of_takes takes, pushed]
  rfl

/-- What a call of the decoder leaves may be kept. -/
theorem Listens.legal_decodeNext (listens : connection.Listens told bytes) :
    connection.decodeNext.decoder.stage.IsLegal connection.decodeNext.decoder.limit := by
  have legal := (Decoder.decode_legal listens.decoder connection.stream.inbox).stage
  rwa [← Decoder.limit_decode connection.decoder connection.stream.inbox] at legal

/-! ## The steps -/

/-- What is reported on goes over from what is ahead. -/
theorem Listens.step (listens : connection.Listens told bytes)
    (advances : connection.Advances items next) (running : entered .disconnecting ∉ items)
    (exact : ∀ more, connection.ahead more = framedEvents items ++ next.ahead more)
    (assembly : next.assembly.Sound) (decoder : next.decoder.stage.IsLegal next.decoder.limit) :
    next.Listens (told ++ items) bytes := by
  have options : next.options = connection.options :=
    congrArg Surroundings.options advances.surroundings_eq
  refine ⟨?_, fun more => ?_, assembly, decoder⟩
  · rw [List.mem_append, not_or]
    exact ⟨listens.running, running⟩
  · rw [framedEvents_append, List.append_assoc, ← exact, listens.exact, options]

/-- A frame that was taken leaves the assembly and the decoder in order. -/
theorem Listens.assembled (listens : connection.Listens told bytes) {frame : Frame}
    {outcome : Except Violation (Option Frame)} {after : Assembly}
    (pushed : connection.assembly.push frame = (outcome, after)) :
    after.Sound ∧
      connection.decodeNext.decoder.stage.IsLegal connection.decodeNext.decoder.limit := by
  have sound := (Assembly.sound_push listens.assembly frame).1
  rw [pushed] at sound
  exact ⟨sound, listens.legal_decodeNext⟩

/-- A message that is reported goes over from what is ahead. -/
theorem Listens.reports (listens : connection.Listens told bytes) {frame message : Frame}
    (takes : connection.Takes frame) {after : Assembly}
    (pushed : connection.assembly.push frame = (.ok (some message), after))
    {status : ConnectionStatus} (advances : connection.Advances [framed status message] next)
    (hears : ∀ later, heard message later = { status, frame := some message } :: later)
    (ahead : next.ahead = (connection.assembled after).ahead) (assembly : next.assembly = after)
    (decoder : next.decoder = connection.decodeNext.decoder) :
    next.Listens (told ++ [framed status message]) bytes := by
  obtain ⟨sound, legal⟩ := listens.assembled pushed
  rw [← assembly] at sound
  rw [← decoder] at legal
  refine listens.step advances (by simp) (fun more => ?_) sound legal
  rw [listens.ahead_of_message takes pushed, hears, ahead]
  rfl

theorem Listens.within (listens : connection.Listens told bytes) :
    connection.Within told bytes := by
  have exact := listens.exact []
  rw [List.append_nil] at exact
  rw [Within, eventsBeforeClosing_of_not_mem listens.running, ← exact]
  exact List.prefix_append ..

theorem Advances.within (advances : connection.Advances items next)
    (within : connection.Within (told ++ items) bytes) : next.Within (told ++ items) bytes := by
  have options : next.options = connection.options :=
    congrArg Surroundings.options advances.surroundings_eq
  rw [Within, options]
  exact within

/-- What does not count leaves what was reported within what all bytes deserve. -/
theorem Within.step (within : connection.Within told bytes)
    (advances : connection.Advances items next)
    (same : eventsBeforeClosing (told ++ items) = eventsBeforeClosing told) :
    next.Within (told ++ items) bytes := by
  refine advances.within ?_
  rw [Within, same]
  exact within

theorem framedEvents_upgradeReport (error : Error) :
    framedEvents (upgradeReport error ++ [entered .aborted, .failure error]) = [] := by
  cases error with
  | upgrade cause => cases cause <;> rfl
  | _ => rfl

/-- Before the exchange nothing was reported that counts. -/
theorem UpgradeFails.within {error : Error} (fails : connection.UpgradeFails error)
    (accounts : connection.Accounts told bytes) : connection.Within told bytes := by
  have silent : Silent told := by
    unfold Accounts at accounts
    rcases fails.phase_cases with ⟨_, phase⟩ | ⟨_, _, _, phase⟩
    all_goals
      rw [phase] at accounts
      exact accounts.1
  rw [Within, eventsBeforeClosing_of_not_mem silent.running, silent.silent]
  exact List.nil_prefix

/-- The exchange begins with the bytes behind the head. -/
theorem listens_beginExchange {reader after : Http.HeadReader} {head : Http.ResponseHead}
    {rest unread : Bytes} (silent : Silent told) (clean : reader.Clean)
    (whole : reader.buffer ++ connection.stream.inbox = bytes)
    (read : reader.read connection.stream.inbox = (.complete head rest, after, unread))
    (subprotocol : Option String) :
    (connection.beginExchange subprotocol (rest ++ unread)).Listens
      (told ++ [entered .upgraded, entered .connected]) bytes := by
  obtain ⟨length, ends, -, behind⟩ := clean.read_complete read
  rw [whole] at ends behind
  constructor
  · rw [List.mem_append, not_or]
    exact ⟨silent.running, by decide⟩
  · intro more
    rw [framedEvents_append, silent.silent, deserved, Http.bodyOf_append more ends, ← behind]
    rfl
  · exact Assembly.sound_empty _
  · exact trivial

theorem not_mem_settledItems (job : Job) (succeeded : Bool) :
    entered .disconnecting ∉ settledItems job succeeded := by
  cases job with
  | command id frames =>
    cases succeeded with
    | false => simp [settledItems]
    | true =>
      simp only [settledItems, sentStatus]
      split <;> simp
  | _ => cases succeeded <;> simp [settledItems]

theorem framedEvents_settledItems (job : Job) (succeeded : Bool) :
    framedEvents (settledItems job succeeded) = [] := by
  cases job <;> cases succeeded <;> rfl

/-- The end of a write reports no frame. -/
theorem accounts_settle {before : Connection} {job : Job} {error : Option TransportError}
    (accounts : connection.Accounts told bytes) (writing : connection.phase = .writing job)
    (advances : connection.Advances (settledItems job error.isNone) (before.settle job error))
    (ahead : before.ahead = connection.ahead) (assembly : before.assembly = connection.assembly)
    (decoder : before.decoder = connection.decoder) :
    (before.settle job error).Accounts (told ++ settledItems job error.isNone) bytes := by
  rw [Accounts, writing] at accounts
  have silent := framedEvents_settledItems job error.isNone
  have same := @eventsBeforeClosing_append_of_framedEvents told _ silent
  have listening (listens : connection.Listens told bytes)
      (still : (before.settle job error).ahead = before.ahead)
      (sound : (before.settle job error).assembly = before.assembly)
      (legal : (before.settle job error).decoder = before.decoder) :
      (before.settle job error).Listens (told ++ settledItems job error.isNone) bytes := by
    refine listens.step advances (not_mem_settledItems _ _) (fun more => ?_) ?_ ?_
    · rw [silent, still, ahead, List.nil_append]
    · rw [sound, assembly]
      exact listens.assembly
    · rw [legal, decoder]
      exact listens.decoder
  cases job with
  | command id frames => exact listening accounts rfl rfl rfl
  | keepAlive => exact listening accounts rfl rfl rfl
  | pong frame => exact listening accounts rfl rfl rfl
  | close reason id =>
    obtain ⟨closing, within⟩ := accounts
    have after := within.step advances same
    cases error with
    | none => cases id <;> exact ⟨List.mem_append_left _ closing, after⟩
    | some cause => cases id <;> exact after
  | echo frame => exact Within.step accounts advances same
  | refusal cause => exact Within.step accounts advances same

theorem accounts_of_listens (running : next.phase = .connected)
    (listens : next.Listens told bytes) : next.Accounts told bytes := by
  rwa [Accounts, running]

theorem accounts_of_closing {deadline : Nat} (waiting : next.phase = .awaitingClose deadline)
    (begun : entered .disconnecting ∈ told) (within : next.Within told bytes) :
    next.Accounts told bytes := by
  rw [Accounts, waiting]
  exact ⟨begun, within⟩

/-- Every rule keeps account of the bytes of the peer. -/
theorem Advances.accounts (advances : connection.Advances items next)
    (accounts : connection.Accounts told bytes) : next.Accounts (told ++ items) bytes := by
  -- In each phase, what the account is.
  have listens (running : connection.phase = .connected) : connection.Listens told bytes := by
    rwa [Accounts, running] at accounts
  have closing {deadline : Nat} (waiting : connection.phase = .awaitingClose deadline) :
      entered .disconnecting ∈ told ∧ connection.Within told bytes := by
    rwa [Accounts, waiting] at accounts
  have quiet (silent : framedEvents items = []) :
      eventsBeforeClosing (told ++ items) = eventsBeforeClosing told :=
    eventsBeforeClosing_append_of_framedEvents silent
  have kept := advances
  cases advances with
  | cancelsDialing phase | dialingFails phase | hostUnfit phase | beginsSecuring phase
  | opensPlain phase | cancelsSecuring phase | securingFails phase | opensSecure phase =>
    rw [Accounts, phase] at accounts
    exact accounts.elim
  | upgradeFails fails =>
    exact (fails.within accounts).step kept (quiet (framedEvents_upgradeReport _))
  | requests requesting =>
    rw [Accounts, requesting] at accounts
    obtain ⟨silent, arrived⟩ := accounts
    rw [List.append_nil]
    exact ⟨silent, Http.HeadReader.clean_empty, arrived⟩
  | readsHead waiting going arrived read =>
    rw [Accounts, waiting] at accounts
    obtain ⟨silent, clean, whole⟩ := accounts
    obtain ⟨stillClean, same⟩ := clean.read_incomplete read
    rw [List.append_nil]
    exact ⟨silent, stillClean, same.trans whole⟩
  | upgrades waiting going arrived read =>
    rw [Accounts, waiting] at accounts
    obtain ⟨silent, clean, whole⟩ := accounts
    exact listens_beginExchange silent clean whole read _
  | stops running => exact (listens running).within.step kept (quiet rfl)
  | takesSend running | pings running =>
    exact (listens running).step kept List.not_mem_nil (fun _ => rfl) (listens running).assembly
      (listens running).decoder
  | takesClose running | abandoned running =>
    exact ⟨List.mem_append_right _ (List.mem_singleton_self _),
      (listens running).within.step kept (quiet rfl)⟩
  | refuses reads => exact (listens reads.running).within.step kept (quiet rfl)
  | collects reads takes pushed =>
    have listens := listens reads.running
    obtain ⟨sound, legal⟩ := listens.assembled pushed
    refine accounts_of_listens reads.running ?_
    refine listens.step kept List.not_mem_nil (fun more => ?_) sound legal
    rw [listens.ahead_of_takes takes, pushed]
    rfl
  | answersPing reads takes pushed ping =>
    exact (listens reads.running).reports takes pushed kept (fun later => by rw [heard, ping])
      rfl rfl rfl
  | hearsPong reads takes pushed pong =>
    refine accounts_of_listens reads.running ?_
    exact (listens reads.running).reports takes pushed kept (fun later => by rw [heard, pong])
      rfl rfl rfl
  | receives reads takes pushed data =>
    refine accounts_of_listens reads.running ?_
    exact (listens reads.running).reports takes pushed kept (heard_of_data data) rfl rfl rfl
  | @peerCloses reads frame message takes after pushed close echo valid =>
    have listens := listens reads.running
    have all := listens.exact []
    rw [listens.ahead_of_message takes pushed, heard, close, List.append_nil] at all
    dsimp only at all
    rw [if_pos (closeEcho_eq_ok_iff.mp ⟨echo, valid⟩)] at all
    refine kept.within ?_
    rw [Within, eventsBeforeClosing_append listens.running, ← all]
    exact List.prefix_rfl
  | loses reads => exact (listens reads.running).within.step kept (quiet rfl)
  | keepsPart listening waits =>
    rcases listening with reads | ⟨deadline, waiting⟩
    · have listens := listens reads.running
      refine accounts_of_listens reads.running ?_
      exact listens.step kept List.not_mem_nil (ahead_of_waits waits) listens.assembly
        listens.legal_decodeNext
    · obtain ⟨begun, within⟩ := closing waiting
      refine accounts_of_closing waiting (List.mem_append_left _ begun) ?_
      exact within.step kept (quiet rfl)
  | writes writing =>
    exact accounts_settle accounts writing kept rfl rfl rfl
  | failsToWrite writing =>
    exact accounts_settle accounts writing kept rfl rfl rfl
  | dropsFrame waiting =>
    obtain ⟨begun, within⟩ := closing waiting
    refine accounts_of_closing waiting (List.mem_append_left _ begun) ?_
    exact within.step kept (quiet rfl)
  | peerAnswers waiting =>
    obtain ⟨begun, within⟩ := closing waiting
    exact within.step kept (eventsBeforeClosing_append_of_mem begun)
  | givesUpPeer waiting | endsWait waiting =>
    obtain ⟨begun, within⟩ := closing waiting
    exact within.step kept (eventsBeforeClosing_append_of_mem begun)
  | usersRun =>
    rw [List.append_nil]
    exact accounts.congr rfl rfl rfl rfl rfl

/-! ## The inputs -/

/-- Reading ends with the first input that says so. -/
theorem isSome_ending_apply (connection : Connection) (input : Input) :
    (connection.apply input).stream.ending.isSome =
      (connection.stream.ending.isSome || input.endsReading) := by
  cases input with
  | arrive bytes =>
    dsimp only [apply, ByteStream.arrive]
    split <;> simp [Input.endsReading]
  | finish ending =>
    dsimp only [apply, ByteStream.finish]
    split
    · next ended => simp [ended]
    · simp [Input.endsReading]
  | setWrites mode =>
    dsimp only [apply, ByteStream.setWrites]
    split <;> simp [Input.endsReading]
  | socket outcome =>
    dsimp only [apply]
    split <;> simp [Input.endsReading]
  | secure outcome =>
    dsimp only [apply]
    split <;> simp [Input.endsReading]
  | call | takeSender | dropSender | dropSocket | advance | cancel =>
    simp [apply, Input.endsReading]

theorem Reaches.isSome_ending {start : Connection} {inputs : List Input}
    (reaches : Reaches start inputs connection) (openEnded : start.stream.ending = none) :
    connection.stream.ending.isSome = inputs.any Input.endsReading := by
  induction reaches with
  | start => rw [openEnded]; rfl
  | step reaches step ih =>
    obtain ⟨items, advances⟩ := advances_of_step? step
    have same := congrArg Surroundings.ending advances.surroundings_eq
    exact (congrArg Option.isSome same).trans ih
  | apply reaches input ih => rw [isSome_ending_apply, ih]; simp

/-- Every input keeps account of the bytes of the peer. -/
theorem accounts_apply {inputs : List Input}
    (accounts : connection.Accounts told (received inputs))
    (ending : connection.stream.ending.isSome = inputs.any Input.endsReading) (input : Input) :
    (connection.apply input).Accounts told (received (inputs ++ [input])) := by
  rw [received_append, ← ending]
  have unheard (silent : received [input] = []) :
      received inputs ++ (if connection.stream.ending.isSome then [] else received [input]) =
        received inputs := by
    rw [silent, ite_self, List.append_nil]
  cases input with
  | arrive more =>
    dsimp only [apply, ByteStream.arrive]
    split
    · rw [List.append_nil]
      exact accounts
    · rw [show received [.arrive more] = more ++ [] from rfl, List.append_nil]
      exact accounts.arrive more rfl rfl rfl rfl rfl
  | finish ending =>
    rw [unheard rfl]
    dsimp only [apply, ByteStream.finish]
    split
    · exact accounts
    · exact accounts.congr rfl rfl rfl rfl rfl
  | setWrites mode =>
    rw [unheard rfl]
    dsimp only [apply, ByteStream.setWrites]
    split
    · exact accounts
    · exact accounts
    · exact accounts.congr rfl rfl rfl rfl rfl
  | socket outcome =>
    rw [unheard rfl]
    dsimp only [apply]
    split
    · next dialing =>
      rw [Accounts, dialing] at accounts
      exact accounts.elim
    · exact accounts
  | secure outcome =>
    rw [unheard rfl]
    dsimp only [apply]
    split
    · next securing =>
      rw [Accounts, securing] at accounts
      exact accounts.elim
    · exact accounts
  | call | takeSender | dropSender | dropSocket | advance | cancel =>
    rw [unheard rfl]
    exact accounts.congr rfl rfl rfl rfl rfl

/-! ## Every run -/

variable {url : Url} {options : Options} {nonce : Bytes} {keys : Nat → MaskKey}
  {inputs : List Input}

/-- In every run what a reader who stays is told accounts for the bytes of the peer. -/
theorem Reaches.accounts (reaches : Reaches (attach url options nonce keys) inputs connection) :
    ∃ told, connection.Accounts told (received inputs) ∧ connection.items.toList <+: told ∧
      (connection.callers.socketHeld = true → connection.items.toList = told) := by
  have opening : Silent [entered .initialized, entered .streamConnected, entered .upgrading] :=
    ⟨by decide, rfl⟩
  refine reaches.exists_told
    (fun inputs connection told => connection.Accounts told (received inputs)) ⟨opening, rfl⟩
    (fun accounts advances => advances.accounts accounts) ?_
  intro inputs connection told input reaches accounts
  exact accounts_apply accounts (reaches.isSome_ending rfl) input

theorem Accounts.within (accounts : connection.Accounts told bytes) :
    connection.Within told bytes := by
  have quiet (silent : Silent told) : connection.Within told bytes := by
    rw [Within, eventsBeforeClosing_of_not_mem silent.running, silent.silent]
    exact List.nil_prefix
  unfold Accounts at accounts
  split at accounts
  · exact accounts.elim
  · exact accounts.elim
  · exact quiet accounts.1
  · exact quiet accounts.1
  · exact accounts.within
  · exact accounts.within
  · exact accounts.within
  · exact accounts.within
  · exact accounts.2
  · exact accounts.2
  · exact accounts
  · exact accounts
  · exact accounts

/-- Up to the closing of the connection the events with frames are a prefix of what the bytes of the
peer deserve, and all of it when the connection waits for more. -/
theorem Reaches.events_deserved
    (reaches : Reaches (attach url options nonce keys) inputs connection) :
    eventsBeforeClosing connection.items.toList <+: deserved options (received inputs) ∧
      (connection.step? = none → connection.isConnected = true →
        (∀ job, connection.phase ≠ .writing job) → connection.callers.socketHeld = true →
        eventsBeforeClosing connection.items.toList = deserved options (received inputs)) := by
  obtain ⟨told, accounts, early, whole⟩ := reaches.accounts
  have same : connection.options = options := reaches.options_eq
  constructor
  · have within := accounts.within
    rw [Within, same] at within
    exact (eventsBeforeClosing_mono early).trans within
  · intro idle connected noWrite held
    have running := (reaches.fits rfl).connected_of_not_writing connected noWrite
    obtain ⟨-, waits, -⟩ := waits_of_idle running idle
    rw [Accounts, running] at accounts
    have all := accounts.exact []
    rw [ahead_nil_of_waits waits, List.append_nil, List.append_nil] at all
    rw [whole held, eventsBeforeClosing_of_not_mem accounts.running, ← same, all]

/-- The server sends a ping between the two fragments of a message. -/
theorem events_deserved_of_crossing :
    let inputs := [.arrive (agreement ++ [0x01, 0x01, 0x61, 0x89, 0x01, 0x70, 0x80, 0x01, 0x62])]
    let waiting := (inputs.foldl apply plainStart).stepUpTo 6
    Reaches plainStart inputs waiting ∧ waiting.step? = none ∧ waiting.isConnected = true ∧
      (∀ job, waiting.phase ≠ .writing job) ∧ waiting.callers.socketHeld = true ∧
      eventsBeforeClosing waiting.items.toList =
        [.about .pingReceived .ping [0x70], .about .dataReceived .text [0x61, 0x62]] ∧
      eventsBeforeClosing waiting.items.toList = deserved {} (received inputs) := by
  intro inputs waiting
  have reaches : Reaches plainStart inputs waiting := (Reaches.start.foldl_apply inputs).stepUpTo 6
  obtain ⟨idle, connected, held, noWrite, heard⟩ :
      waiting.step?.isNone = true ∧ waiting.isConnected = true ∧
        waiting.callers.socketHeld = true ∧
        waiting.phase.price = 0 ∧
        eventsBeforeClosing waiting.items.toList =
          [.about .pingReceived .ping [0x70], .about .dataReceived .text [0x61, 0x62]] := by
    decide +kernel
  have noJob : ∀ job, waiting.phase ≠ .writing job := by
    intro job writing
    rw [writing] at noWrite
    cases job <;> cases noWrite
  rw [Option.isNone_iff_eq_none] at idle
  refine ⟨reaches, idle, connected, noJob, held, heard, ?_⟩
  exact (Reaches.events_deserved reaches).2 idle connected noJob held

end Connection

end WebSocket
