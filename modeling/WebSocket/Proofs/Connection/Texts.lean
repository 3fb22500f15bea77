import WebSocket.Proofs.Connection.FailStop
import WebSocket.Proofs.Messages

/-! # Texts are judged as whole messages

Where texts are checked, a session never reports a text that is not valid UTF-8, and what it judges
is the text that the fragments make up, not the fragments (`Reaches.texts_judged_whole`).

That nothing unreadable is reported is a fact about one step (`Advances.readable`), kept along every
run. That a readable message is reported needs progress: a connection that goes on reading does so
after a step, or has heard its peer out (`Attends.step`), which is to say that it reported all that
its bytes deserve up to an unreadable text. So a run reports everything readable that has arrived
(`Attends.run_reports`). What that is, for bytes that carry one message in fragments among other
frames, comes from the two passes over the traffic of a peer.
-/

namespace WebSocket

open StreamItem (entered framed)

/-- Events that can be read reach at most up to the first one that cannot. -/
theorem isPrefix_of_readable {events front rest : List Event} (early : events <+: front ++ rest)
    (readable : ∀ event ∈ events, event.IsReadable)
    (stops : ∀ event ∈ rest.head?, ¬ event.IsReadable) : events <+: front := by
  rcases List.prefix_or_prefix_of_prefix early (List.prefix_append front rest) with
    within | ⟨more, rfl⟩
  · exact within
  · have begins : more <+: rest := (List.prefix_append_right_inj front).mp early
    cases more with
    | nil => simp
    | cons event later =>
      obtain ⟨behind, rfl⟩ := begins
      exact absurd (readable event (by simp)) (stops event rfl)

namespace Connection

variable {connection next : Connection} {items : List StreamItem} {told : List StreamItem}
  {bytes : Bytes}

/-! ## No event reports a text that cannot be read -/

theorem mem_framedEvents {event : Event} :
    event ∈ framedEvents items ↔ .event event ∈ items ∧ event.frame.isSome = true := by
  rw [framedEvents, List.mem_filterMap]
  constructor
  · rintro ⟨item, member, given⟩
    cases item with
    | event other =>
      dsimp only at given
      split at given
      · cases given
        exact ⟨member, ‹_›⟩
      · cases given
    | failure error => cases given
  · rintro ⟨member, some⟩
    exact ⟨_, member, if_pos some⟩

theorem Advances.readable (advances : connection.Advances items next)
    (checked : connection.options.checkUtf8 = true) :
    ∀ event ∈ framedEvents items, event.IsReadable := by
  intro event member
  cases advances with
  | receives reads takes pushed data readable =>
    obtain rfl := List.mem_singleton.mp member
    rintro - frame ⟨⟩ text
    exact readable checked text
  | answersPing | hearsPong | peerCloses | peerAnswers =>
    obtain rfl := List.mem_singleton.mp member
    exact Event.isReadable_of_status nofun
  | upgradeFails =>
    rw [framedEvents_upgradeReport] at member
    cases member
  | writes | failsToWrite =>
    rw [framedEvents_settledItems] at member
    cases member
  | _ => cases member

/-! ## What has arrived is read -/

/-- Up to its closing the connection reported all that the bytes deserve, or all in front of a text
that cannot be read. -/
def HeardOut (connection : Connection) (told : List StreamItem) (bytes : Bytes) : Prop :=
  ∃ rest, eventsBeforeClosing told ++ rest = deserved connection.options bytes ∧
    ∀ event ∈ rest.head?, ¬ event.IsReadable

/-- What a connection reported that has nothing readable ahead. -/
theorem Listens.heardOut (listens : connection.Listens told bytes)
    (silent : framedEvents items = [])
    (stops : ∀ event ∈ (connection.ahead []).head?, ¬ event.IsReadable) :
    connection.HeardOut (told ++ items) bytes := by
  refine ⟨connection.ahead [], ?_, stops⟩
  have exact := listens.exact []
  rw [List.append_nil] at exact
  rw [eventsBeforeClosing_append_of_framedEvents silent,
    eventsBeforeClosing_of_not_mem listens.running, exact]

/-- A connection that waits for bytes has reported everything. -/
theorem Listens.heardOut_of_waits (listens : connection.Listens told bytes)
    (silent : framedEvents items = []) (waits : connection.decodeNext.outcome = .ok none) :
    connection.HeardOut (told ++ items) bytes := by
  refine listens.heardOut silent ?_
  rw [ahead_nil_of_waits waits]
  simp

/-- Where the peer breaks the protocol, no more can be read. -/
theorem Listens.not_readable_of_offends (listens : connection.Listens told bytes)
    {cause : Violation} {after : Assembly} (offends : connection.Offends cause after) :
    ∀ event ∈ (connection.ahead []).head?, ¬ event.IsReadable := by
  have nothing (silent : connection.ahead [] = []) :
      ∀ event ∈ (connection.ahead []).head?, ¬ event.IsReadable := by
    rw [silent]
    simp
  cases offends with
  | undecodable decoded =>
    have given : connection.decodeNext.result? = some (.error cause) := by
      rw [Decoded.result?, decoded]
    refine nothing ?_
    rw [ahead, Decoder.exhaust_append_of_result given]
    rfl
  | masked decoded masked =>
    refine nothing ?_
    simp only [ahead_of_frame decoded, WebSocket.reports, masked, if_true]
  | unassembled takes pushed =>
    refine nothing ?_
    rw [listens.ahead_of_takes takes, pushed]
    rfl
  | badClose takes pushed close invalid =>
    refine nothing ?_
    rw [listens.ahead_of_message takes pushed, heard, close]
    refine if_neg fun valid => ?_
    obtain ⟨echo, given⟩ := closeEcho_eq_ok_iff.mpr valid
    rw [given] at invalid
    cases invalid
  | badText takes pushed checked text invalid =>
    rw [listens.ahead_of_message takes pushed, heard_of_data (by rw [text]; rfl)]
    intro event first readable
    obtain rfl := Option.some.inj first
    rw [readable rfl _ rfl text] at invalid
    cases invalid

/-- A connection that goes on reading does so after a step, or has heard its peer out. -/
theorem Attends.step (attends : connection.Attends) (listens : connection.Listens told bytes)
    (advances : connection.Advances items next) :
    next.Attends ∨ connection.HeardOut (told ++ items) bytes := by
  have exchanging := attends.exchanging
  have kept := advances
  cases advances with
  | cancelsDialing phase | dialingFails phase | hostUnfit phase | beginsSecuring phase
  | opensPlain phase | cancelsSecuring phase | securingFails phase | opensSecure phase
  | requests phase | readsHead phase | upgrades phase | dropsFrame phase | peerAnswers phase
  | givesUpPeer phase | endsWait phase => simp [phase, Phase.rank] at exchanging
  | upgradeFails fails =>
    rcases fails.phase_cases with ⟨_, phase⟩ | ⟨_, _, _, phase⟩
    all_goals simp [phase, Phase.rank] at exchanging
  | stops running cancelled =>
    rw [attends.going] at cancelled
    cases cancelled
  | takesSend running going queued =>
    refine .inl (attends.goOn kept rfl (.inr (by simp [underWay, Job.order?])) ?_)
    rw [queued]
    exact fun command member => List.mem_cons_of_mem _ member
  | takesClose running going queued =>
    have noClose := attends.noClose
    rw [queued] at noClose
    cases noClose _ List.mem_cons_self
  | abandoned running going noOrder gone =>
    rw [attends.not_gone (by simp [running])] at gone
    cases gone
  | pings running going noOrder used =>
    exact .inl (attends.goOn kept rfl (.inl used) fun _ member => member)
  | collects reads | hearsPong reads | receives reads =>
    exact .inl (attends.goOn_of_taken kept reads exchanging rfl)
  | answersPing reads => exact .inl (attends.goOn_of_taken kept reads rfl rfl)
  | refuses reads offends =>
    exact .inr (listens.heardOut rfl (listens.not_readable_of_offends offends))
  | loses reads waits => exact .inr (listens.heardOut_of_waits rfl waits)
  | keepsPart listening waits => exact .inr (listens.heardOut_of_waits rfl waits)
  | @peerCloses reads frame message takes after pushed close echo valid =>
    have all := listens.exact []
    rw [listens.ahead_of_message takes pushed, heard, close, List.append_nil] at all
    dsimp only at all
    rw [if_pos (closeEcho_eq_ok_iff.mp ⟨echo, valid⟩)] at all
    refine .inr ⟨[], ?_, by simp⟩
    rw [List.append_nil, eventsBeforeClosing_append listens.running, ← all]
    rfl
  | writes writing => exact .inl (attends.goOn_of_write kept writing)
  | failsToWrite writing broken =>
    rw [attends.working] at broken
    cases broken
  | usersRun stuck =>
    rcases phase_of_rank exchanging with running | ⟨job, writing, -⟩
    · exact .inr (listens.heardOut_of_waits rfl (waits_of_stuck running stuck).2.1)
    · simp [advance?, writing, stepWriting, attends.working] at stuck

/-- A run puts items on the event stream. -/
theorem exists_tells_run (connection : Connection) :
    ∃ items, Tells connection items connection.run := by
  fun_induction run connection with
  | case1 connection => exact ⟨[], .quiet rfl rfl⟩
  | case2 connection next step ih =>
    obtain ⟨first, advances⟩ := advances_of_step? step
    obtain ⟨later, tells⟩ := ih
    exact ⟨first ++ later, advances.tells.trans tells⟩

/-- A connection that goes on reading reports all that its bytes deserve up to a text that cannot be
read. -/
theorem Attends.run_reports (attends : connection.Attends)
    (accounts : connection.Accounts told bytes) {events : List Event}
    (early : events <+: deserved connection.options bytes)
    (readable : ∀ event ∈ events, event.IsReadable) :
    ∃ items, Tells connection items connection.run ∧
      events <+: eventsBeforeClosing (told ++ items) := by
  fun_induction run connection generalizing told with
  | case1 connection idle =>
    have listens := accounts.listens attends.exchanging
    rcases phase_of_rank attends.exchanging with running | ⟨job, writing, -⟩
    · obtain ⟨-, waits, -⟩ := waits_of_idle running idle
      have silent : framedEvents [] = [] := rfl
      obtain ⟨rest, whole, stops⟩ := listens.heardOut_of_waits silent waits
      rw [← whole] at early
      exact ⟨[], .quiet rfl rfl, isPrefix_of_readable early readable stops⟩
    · simp [step?, advance?, writing, stepWriting, attends.working] at idle
  | case2 connection next step ih =>
    obtain ⟨first, advances⟩ := advances_of_step? step
    have options : next.options = connection.options :=
      congrArg Surroundings.options advances.surroundings_eq
    rcases attends.step (accounts.listens attends.exchanging) advances with
      still | ⟨rest, whole, stops⟩
    · obtain ⟨later, tells, reported⟩ := ih still (advances.accounts accounts) (options ▸ early)
      exact ⟨first ++ later, advances.tells.trans tells, by rwa [← List.append_assoc]⟩
    -- The peer was heard out, so what the rest of the run tells can only be added.
    · obtain ⟨later, tells⟩ := next.exists_tells_run
      rw [← whole] at early
      refine ⟨first ++ later, advances.tells.trans tells, ?_⟩
      refine (isPrefix_of_readable early readable stops).trans (eventsBeforeClosing_mono ?_)
      rw [← List.append_assoc]
      exact List.prefix_append ..

variable {url : Url} {options : Options} {nonce : Bytes} {keys : Nat → MaskKey}
  {inputs : List Input}

/-- Where texts are checked, every event that reports a text reports one that can be read. -/
theorem Reaches.readable (reaches : Reaches (attach url options nonce keys) inputs connection)
    (checked : options.checkUtf8 = true) :
    ∀ event ∈ framedEvents connection.items.toList, event.IsReadable := by
  induction reaches with
  | start =>
    have silent : framedEvents [entered .initialized, entered .streamConnected,
        entered .upgrading] = [] := rfl
    rw [items_attach, silent]
    exact List.forall_mem_nil _
  | @step inputs connection next reaches step ih =>
    obtain ⟨items, advances⟩ := advances_of_step? step
    rw [advances.tells.items, framedEvents_append, List.forall_mem_append]
    refine ⟨ih, fun event member => ?_⟩
    split at member
    · refine advances.readable ?_ event member
      rw [reaches.options_eq]
      exact checked
    · cases member
  | apply reaches input ih =>
    rw [items_apply]
    exact ih

/-! ## A message that has arrived -/

/-- What the bytes behind the response head decode to. -/
def decoded (options : Options) (bytes : Bytes) : List (Except Violation Frame) :=
  (({ limit := options.payloadLimit } : Decoder).exhaust (Http.bodyOf bytes)).results

theorem legal_of_mem_decoded {frame : Frame} (member : .ok frame ∈ decoded options bytes) :
    frame.IsLegal options.payloadLimit :=
  have legal : ({ limit := options.payloadLimit } : Decoder).stage.IsLegal options.payloadLimit :=
    trivial
  Decoder.legal_of_mem_results legal member

section message

variable {earlier between : List Frame} {last : Frame} {opcode : OpCode} {parts : List Bytes}
  {later : List (Except Violation Frame)}

/-- The event of a message. -/
def messageEvent (opcode : OpCode) (parts : List Bytes) : Event :=
  .about .dataReceived opcode parts.flatten

/-- The events in front of the last fragment of a message. -/
def eventsBefore (options : Options) (earlier between : List Frame) : List Event :=
  reports options.messageLimit none ((earlier ++ between).map .ok)

theorem legal_of_arrived
    (arrived : decoded options bytes = (earlier ++ between ++ [last]).map .ok ++ later) :
    ∀ frame ∈ earlier ++ between ++ [last], frame.IsLegal options.payloadLimit := by
  intro frame member
  have inBytes : .ok frame ∈ decoded options bytes := by
    rw [arrived]
    exact List.mem_append_left _ (List.mem_map_of_mem member)
  exact legal_of_mem_decoded inBytes

variable (carries : Carries options.messageLimit true earlier between last opcode parts)
  (arrived : decoded options bytes = (earlier ++ between ++ [last]).map .ok ++ later)
include carries arrived

theorem deserved_of_arrived : deserved options bytes = eventsBefore options earlier between ++
    messageEvent opcode parts :: reports options.messageLimit none later := by
  change reports options.messageLimit none (decoded options bytes) = _
  rw [arrived]
  exact carries.reports_eq later (legal_of_arrived arrived)

theorem judged_of_arrived (checked : options.checkUtf8 = true) (ending : Option StreamEnd) :
    judged options ending bytes =
      if isBadText true opcode parts.flatten then some (.refused .notUtf8)
      else fate? options.messageLimit true ending none later := by
  change fate? options.messageLimit options.checkUtf8 ending none (decoded options bytes) = _
  rw [arrived, checked]
  exact carries.fate?_eq later ending

theorem readable_before : ∀ event ∈ eventsBefore options earlier between, event.IsReadable :=
  isReadable_of_lawful (Assembly.sound_empty options.messageLimit)
    (List.forall_mem_append.mp (legal_of_arrived arrived)).1 carries.lawful_front

end message

/-- The text of a message that is valid UTF-8. -/
theorem exists_message?_of_isUtf8 {payload : Bytes} (valid : payload.isUtf8 = true) :
    ∃ text, Bytes.ofString text = payload ∧ (Frame.text payload).message? = some text := by
  obtain ⟨text, read, same⟩ := Bytes.exists_text_of_isUtf8 valid
  exact ⟨text, same, read⟩

variable {earlier between : List Frame} {last : Frame} {opcode : OpCode} {parts : List Bytes}
  {later : List (Except Violation Frame)}

theorem isReadable_messageEvent (fine : opcode = .binary ∨ Bytes.isUtf8 parts.flatten = true) :
    (messageEvent opcode parts).IsReadable := by
  rintro - frame same text
  obtain rfl := Option.some.inj same
  rcases fine with rfl | valid
  · cases text
  · exact valid

theorem not_isReadable_messageEvent (invalid : Bytes.isUtf8 parts.flatten = false) :
    ¬ (messageEvent .text parts).IsReadable := by
  intro readable
  have valid := readable rfl _ rfl rfl
  rw [Frame.isUtf8, invalid] at valid
  cases valid

/-- A text that cannot be read is never reported, nor anything behind it. -/
theorem Reaches.reported_before
    (reaches : Reaches (attach url options nonce keys) inputs connection)
    (checked : options.checkUtf8 = true)
    (carries : Carries options.messageLimit true earlier between last .text parts)
    (arrived : decoded options (received inputs) =
      (earlier ++ between ++ [last]).map .ok ++ later)
    (invalid : Bytes.isUtf8 parts.flatten = false) :
    eventsBeforeClosing connection.items.toList <+: eventsBefore options earlier between := by
  obtain ⟨told, accounts, early, -⟩ := reaches.accounts
  have within := (eventsBeforeClosing_mono early).trans accounts.within
  rw [reaches.options_eq, show (attach url options nonce keys).options = options from rfl,
    deserved_of_arrived carries arrived] at within
  refine isPrefix_of_readable within (fun event member => ?_) ?_
  · refine reaches.readable checked event ?_
    exact ((List.takeWhile_prefix _).filterMap _).subset member
  · intro event first
    obtain rfl := Option.some.inj first
    exact not_isReadable_messageEvent invalid

/-- Up to its closing a run reports what has arrived as far as it can be read. -/
theorem Reaches.run_reports (reaches : Reaches (attach url options nonce keys) inputs connection)
    (attends : connection.Attends) (held : connection.callers.socketHeld = true)
    {events : List Event} (early : events <+: deserved options (received inputs))
    (readable : ∀ event ∈ events, event.IsReadable) :
    events <+: eventsBeforeClosing connection.run.items.toList := by
  obtain ⟨told, accounts, -, whole⟩ := reaches.accounts
  have same : connection.options = options := reaches.options_eq
  obtain ⟨items, tells, reported⟩ := attends.run_reports accounts (same ▸ early) readable
  rwa [tells.items, if_pos held, whole held]

/-- A message that is fine is reported once, at its place. -/
theorem Reaches.run_reports_message
    (reaches : Reaches (attach url options nonce keys) inputs connection)
    (attends : connection.Attends) (held : connection.callers.socketHeld = true)
    (carries : Carries options.messageLimit true earlier between last opcode parts)
    (arrived : decoded options (received inputs) =
      (earlier ++ between ++ [last]).map .ok ++ later)
    (fine : opcode = .binary ∨ Bytes.isUtf8 parts.flatten = true) :
    ∃ rest, rest <+: reports options.messageLimit none later ∧
      eventsBeforeClosing connection.run.items.toList =
        eventsBefore options earlier between ++ messageEvent opcode parts :: rest := by
  have whole := deserved_of_arrived carries arrived
  obtain ⟨told, accounts, early, -⟩ := reaches.run.accounts
  have within := (eventsBeforeClosing_mono early).trans accounts.within
  rw [reaches.run.options_eq, show (attach url options nonce keys).options = options from rfl,
    whole] at within
  have upTo : eventsBefore options earlier between ++ [messageEvent opcode parts] <+:
      eventsBeforeClosing connection.run.items.toList := by
    refine reaches.run_reports attends held ?_ ?_
    · rw [whole, List.append_cons _ (messageEvent opcode parts) (reports ..)]
      exact List.prefix_append ..
    · refine List.forall_mem_append.mpr ⟨readable_before carries arrived, ?_⟩
      exact List.forall_mem_singleton.mpr (isReadable_messageEvent fine)
  obtain ⟨rest, same⟩ := upTo
  rw [← same, List.append_cons _ (messageEvent opcode parts) (reports ..),
    List.prefix_append_right_inj] at within
  exact ⟨rest, within, by rw [← same, List.append_assoc, List.singleton_append]⟩

/-- A text that cannot be read ends a run, with a close frame that says so. -/
theorem Reaches.run_refuses_text
    (reaches : Reaches (attach url options nonce keys) inputs connection)
    (checked : options.checkUtf8 = true) (attends : connection.Attends)
    (carries : Carries options.messageLimit true earlier between last .text parts)
    (arrived : decoded options (received inputs) =
      (earlier ++ between ++ [last]).map .ok ++ later)
    (invalid : Bytes.isUtf8 parts.flatten = false) :
    connection.run.isOver = true ∧ connection.run.state = .aborted ∧
      connection.run.sentFrames.getLast? =
        some (.closeRaw ([0x03, 0xEF] ++ Bytes.ofString "Invalid UTF-8")) ∧
      (connection.callers.socketHeld = true →
        eventsBeforeClosing connection.run.items.toList = eventsBefore options earlier between ∧
        connection.run.items.toList.getLast? = some (.failure (.violation .notUtf8))) := by
  obtain ⟨told, listens⟩ := reaches.listens attends.exchanging
  have bad : isBadText true .text parts.flatten = true := by
    simp [isBadText, invalid]
  have met := judged_of_arrived carries arrived checked connection.stream.ending
  rw [if_pos bad] at met
  have ahead := reaches.foreseen attends.exchanging connection.stream.ending []
  rw [List.append_nil, reaches.options_eq] at ahead
  have doomed : connection.Doomed (.refused .notUtf8) :=
    ⟨attends.exchanging, attends.going, attends.used, attends.noClose, attends.working,
      listens.assembly, listens.decoder, ahead.trans met⟩
  obtain ⟨⟨attempts, items, concludes⟩, -⟩ := doomed.concludes
  refine ⟨concludes.isOver, concludes.state, ?_, fun held => ⟨?_, ?_⟩⟩
  · rw [concludes.sent, Fate.farewell, List.getLast?_append]
    rfl
  · have atMost := reaches.run.reported_before checked carries arrived invalid
    have atLeast : eventsBefore options earlier between <+:
        eventsBeforeClosing connection.run.items.toList := by
      refine reaches.run_reports attends held ?_ (readable_before carries arrived)
      rw [deserved_of_arrived carries arrived]
      exact List.prefix_append ..
    exact List.IsPrefix.eq_of_length_le atMost (List.IsPrefix.length_le atLeast)
  · rw [concludes.told, if_pos held, List.getLast?_append, List.getLast?_append]
    rfl

/-- Where texts are checked, no event ever reports a text that cannot be read. A data message that
has arrived is judged as a whole, however it was cut and whatever pings and pongs came between its
fragments. If it is binary or valid UTF-8, then a connection that goes on reading reports it once,
at its place, and a text as that text. A text that is not valid UTF-8 is never reported, nor
anything behind it; the connection is aborted with that error, and the last frame on the wire is a
close frame that says so. -/
theorem Reaches.texts_judged_whole
    (reaches : Reaches (attach url options nonce keys) inputs connection)
    (checked : options.checkUtf8 = true) :
    (∀ event, .event event ∈ connection.items.toList → event.IsReadable) ∧
    ∀ {earlier between : List Frame} {last : Frame} {opcode : OpCode} {parts : List Bytes}
      {later : List (Except Violation Frame)},
      Carries options.messageLimit true earlier between last opcode parts →
      decoded options (received inputs) = (earlier ++ between ++ [last]).map .ok ++ later →
      (opcode = .text → Bytes.isUtf8 parts.flatten = false →
        eventsBeforeClosing connection.items.toList <+: eventsBefore options earlier between) ∧
      (connection.isConnected = true →
        (∀ cause, connection.phase ≠ .writing (.refusal cause)) → connection.cancelled = false →
        connection.IsUsed → (∀ command ∈ connection.callers.queue, command.order.isClose = false) →
        connection.stream.writes = .working →
        (opcode = .binary ∨ Bytes.isUtf8 parts.flatten = true →
          connection.callers.socketHeld = true →
          (∃ rest, rest <+: reports options.messageLimit none later ∧
            eventsBeforeClosing connection.run.items.toList =
              eventsBefore options earlier between ++ messageEvent opcode parts :: rest) ∧
          (opcode = .text → ∃ text, Bytes.ofString text = parts.flatten ∧
            ∀ frame ∈ (messageEvent opcode parts).frame, frame.message? = some text)) ∧
        (opcode = .text → Bytes.isUtf8 parts.flatten = false →
          connection.run.isOver = true ∧ connection.run.state = .aborted ∧
          connection.run.sentFrames.getLast? =
            some (.closeRaw ([0x03, 0xEF] ++ Bytes.ofString "Invalid UTF-8")) ∧
          (connection.callers.socketHeld = true →
            eventsBeforeClosing connection.run.items.toList =
              eventsBefore options earlier between ∧
            connection.run.items.toList.getLast? = some (.failure (.violation .notUtf8))))) := by
  constructor
  · intro event member
    cases frame : event.frame with
    | none =>
      intro _ other same
      rw [frame] at same
      cases same
    | some _ =>
      have framed : event.frame.isSome = true := by rw [frame]; rfl
      exact reaches.readable checked event (mem_framedEvents.mpr ⟨member, framed⟩)
  · intro earlier between last opcode parts later carries arrived
    refine ⟨?_, fun connected unrefused going used noClose working => ?_⟩
    · rintro rfl invalid
      exact reaches.reported_before checked carries arrived invalid
    · have exchanging := rank_of_connected (reaches.fits (fits_attach ..)) connected unrefused
      have attends : connection.Attends := ⟨exchanging, going, used, noClose, working⟩
      refine ⟨fun fine held => ⟨?_, ?_⟩, ?_⟩
      · exact reaches.run_reports_message attends held carries arrived fine
      · rintro rfl
        have valid := fine.resolve_left nofun
        obtain ⟨text, same, read⟩ := exists_message?_of_isUtf8 valid
        refine ⟨text, same, fun frame given => ?_⟩
        obtain rfl := Option.some.inj given
        exact read
      · rintro rfl invalid
        exact reaches.run_refuses_text checked attends carries arrived invalid

/-- A text comes in two fragments with a ping between them, and the cut goes through its only
character. With the second half of the character it is that text, with a parenthesis it is none. -/
theorem texts_judged_whole_of_cut_character :
    let options : Options := { checkUtf8 := true }
    let start := attach ⟨"ws", some "localhost", none, "/", none⟩ options (List.replicate 16 0)
      fun _ => ⟨0, 0, 0, 0⟩
    let inputs (final : UInt8) : List Input :=
      [.arrive (agreement ++ [0x01, 0x01, 0xC3, 0x89, 0x00, 0x80, 0x01, final])]
    let connected (final : UInt8) := ((inputs final).foldl apply start).stepUpTo 2
    (∀ final, Reaches start (inputs final) (connected final)) ∧
      (eventsBeforeClosing (connected 0xA4).run.items.toList =
          [.about .pingReceived .ping [], .about .dataReceived .text [0xC3, 0xA4]] ∧
        (Frame.text [0xC3, 0xA4]).message? = some "ä") ∧
      (connected 0x28).run.state = .aborted ∧
      (connected 0x28).run.sentFrames.getLast? =
        some (.closeRaw ([0x03, 0xEF] ++ Bytes.ofString "Invalid UTF-8")) ∧
      eventsBeforeClosing (connected 0x28).run.items.toList = [.about .pingReceived .ping []] := by
  intro options start inputs connected
  have reaches (final : UInt8) : Reaches start (inputs final) (connected final) :=
    (Reaches.start.foldl_apply (inputs final)).stepUpTo 2
  have carries (final : UInt8) : Carries options.messageLimit true []
      [.fragment .text .first [0xC3], .ping []] (.fragment .continuation .last [final]) .text
      [[0xC3], [final]] :=
    { lawful := rfl
      closed := rfl
      data := .inl rfl
      fragments := rfl
      ends := rfl
      controls := by decide
      fits := .inr (show 2 < options.messageLimit by decide) }
  have arrived : ∀ final ∈ [0xA4, 0x28], decoded options (received (inputs final)) =
      ([] ++ [.fragment .text .first [0xC3], .ping []] ++
        [.fragment .continuation .last [final]] : List Frame).map .ok ++ [] := by
    decide +kernel
  have open_ : ∀ final ∈ [0xA4, 0x28], (connected final).isConnected = true ∧
      (connected final).phase.rank = 3 ∧ (connected final).cancelled = false ∧
      (connected final).callers.areGone = false ∧
      (∀ command ∈ (connected final).callers.queue, command.order.isClose = false) ∧
      (connected final).stream.writes = .working ∧
      (connected final).callers.socketHeld = true := by
    decide +kernel
  have unrefused : ∀ final ∈ [0xA4, 0x28], ∀ cause,
      (connected final).phase ≠ .writing (.refusal cause) := by
    intro final member cause writing
    obtain ⟨-, rank, -⟩ := open_ final member
    rw [writing] at rank
    cases rank
  have judged (final : UInt8) (member : final ∈ [0xA4, 0x28]) :=
    have ⟨isConnected, _, going, used, noClose, working, _⟩ := open_ final member
    (((reaches final).texts_judged_whole rfl).2 (carries final) (arrived final member)).2
      isConnected (unrefused final member) going (.inl used) noClose working
  refine ⟨reaches, ?_, ?_⟩
  · obtain ⟨-, -, -, -, -, -, held⟩ := open_ 0xA4 (by decide)
    obtain ⟨⟨rest, nothing, reported⟩, isText⟩ :=
      (judged 0xA4 (by decide)).1 (.inr (by decide +kernel)) held
    obtain rfl := List.prefix_nil.mp nothing
    obtain ⟨text, same, read⟩ := isText rfl
    have spelled : Bytes.ofString text = Bytes.ofString "ä" := same.trans (by decide +kernel)
    refine ⟨reported, (read _ rfl).trans ?_⟩
    rw [← Bytes.text?_ofString text, spelled, Bytes.text?_ofString]
  · obtain ⟨-, -, -, -, -, -, held⟩ := open_ 0x28 (by decide)
    obtain ⟨-, state, farewell, told⟩ := (judged 0x28 (by decide)).2 rfl (by decide +kernel)
    exact ⟨state, farewell, (told held).1⟩

end Connection

end WebSocket
