import WebSocket.Proofs.Connection.Outgoing

/-! # Every ping that is reported as answered has its pong

The pongs on the wire are the answers to those pings after whose report the event stream says that a
pong was sent, one for each of them and in their order. The invariant is that the pongs so far match
what was told so far, that a pong which is being written answers the last thing that was told, and
that nothing else which is written or ordered is a pong (`Answering`).
-/

namespace WebSocket

/-! ## Pings and their answers -/

/-- The pings of the event stream that are directly followed by the report that a pong was sent. -/
def answeredPings : List StreamItem → List Frame
  | .event ⟨.pingReceived, some ping⟩ :: .event ⟨.pongSent, none⟩ :: later =>
    ping :: answeredPings later
  | _ :: later => answeredPings later
  | [] => []

/-- A pong answers a ping: it carries the same payload, or a single zero byte for an empty ping when
empty pongs are not wanted. -/
structure Frame.Answers (emptyPong : Bool) (ping pong : Frame) : Prop where
  opcode : pong.opcode = .pong
  payload : pong.payload =
    if ping.payload = [] ∧ emptyPong = false then [0] else ping.payload

theorem Frame.answers_pongFor (emptyPong : Bool) (ping : Frame) :
    ping.Answers emptyPong (ping.pongFor emptyPong) := by
  cases empty : ping.payload with
  | nil => cases emptyPong <;> constructor <;> simp [pongFor, pong, empty]
  | cons byte rest => constructor <;> simp [pongFor, pong, empty]

open StreamItem (entered framed)

variable {told items : List StreamItem}

/-- A report that a pong was sent answers a ping only when it comes directly behind it. -/
theorem answeredPings_append (told : List StreamItem)
    (apart : items.head? ≠ some (.status .pongSent)) :
    answeredPings (told ++ items) = answeredPings told ++ answeredPings items := by
  fun_induction answeredPings told with
  | case1 ping later ih => simp [answeredPings, ih]
  | case2 item later other ih =>
    rw [List.cons_append, answeredPings.eq_2, ih]
    intro ping rest isPing begins
    cases later with
    | nil =>
      rw [List.nil_append] at begins
      simp [begins] at apart
    | cons next later =>
      cases begins
      exact other ping later isPing rfl
  | case3 => rfl

theorem answeredPings_append_answered (told : List StreamItem) (ping : Frame) :
    answeredPings (told ++ [framed .pingReceived ping] ++ [.status .pongSent]) =
      answeredPings told ++ [ping] := by
  rw [List.append_assoc, answeredPings_append told (by simp)]
  rfl

/-- Items that do not say that a pong was sent answer no ping. -/
theorem answeredPings_append_silent (told : List StreamItem) (silent : .status .pongSent ∉ items) :
    answeredPings (told ++ items) = answeredPings told := by
  have none : answeredPings items = [] := by
    fun_induction answeredPings items with
    | case1 ping later ih => simp at silent
    | case2 item later other ih => exact ih (List.not_mem_of_not_mem_cons silent)
    | case3 => rfl
  have apart : items.head? ≠ some (.status .pongSent) :=
    fun begins => silent (List.mem_of_mem_head? begins)
  rw [answeredPings_append told apart, none, List.append_nil]

/-- What is told later only adds answered pings. -/
theorem answeredPings_mono (early : told <+: items) :
    answeredPings told <+: answeredPings items := by
  obtain ⟨more, rfl⟩ := early
  fun_induction answeredPings told with
  | case1 ping later ih => exact List.cons_prefix_cons.mpr ⟨rfl, ih⟩
  | case2 item later other ih =>
    cases later with
    | nil => exact List.nil_prefix
    | cons next later =>
      rw [List.cons_append, answeredPings.eq_2 _ (next :: later ++ more)]
      · exact ih
      · intro ping rest isPing begins
        cases begins
        exact other ping later isPing rfl
  | case3 => exact List.nil_prefix

/-- No call orders a pong. -/
theorem Call.opcode_ne_pong {call : Call} (fine : call.misuse? = none) {frame : Frame}
    (member : frame ∈ call.order.frames) : frame.opcode ≠ .pong := by
  have data (kind : frame.opcode.isControl = false) : frame.opcode ≠ .pong := by
    intro pong
    rw [pong] at kind
    cases kind
  cases call with
  | text | binary | ping | close =>
    obtain rfl := List.mem_singleton.mp member
    simp [Frame.text, Frame.binary, Frame.ping, Frame.close, Frame.closeRaw]
  | textFragment body opcode role | binaryFragment body opcode role =>
    obtain rfl := List.mem_singleton.mp member
    have kind : opcode.isControl = false := by simpa [misuse?] using fine
    exact data (Frame.isControl_fragment kind _ _)
  | textParts parts | binaryParts parts => exact data (Frame.isProper_fragments rfl member).2

/-! ## What a write puts on the wire -/

namespace Connection

variable {connection next : Connection}

/-- The pongs on the wire. -/
def pongs (connection : Connection) : List Frame :=
  connection.sentFrames.filter (·.opcode = .pong)

/-- What a write has to do with pings: a pong answers the last thing that was told, a ping, and all
other frames are no pongs. -/
def Owes (connection : Connection) (told : List StreamItem) : Job → Prop
  | .pong pong => ∃ before ping, told = before ++ [framed .pingReceived ping] ∧
    pong = ping.pongFor connection.options.emptyPong
  | job => ∀ frame ∈ connection.framesOf job, frame.opcode ≠ .pong

/-- The pongs so far answer the pings so far, and so will the pong that is being written. -/
structure Answering (connection : Connection) (told : List StreamItem) : Prop where
  pongs : connection.pongs =
    (answeredPings told).map (Frame.pongFor connection.options.emptyPong)
  job : ∀ job, connection.phase = .writing job → connection.Owes told job
  orders : ∀ command ∈ connection.outstanding, ∀ frame ∈ command.order.frames,
    frame.opcode ≠ .pong

theorem not_mem_settledItems_of_other {job : Job} (other : ∀ pong, job ≠ .pong pong)
    (succeeded : Bool) : .status .pongSent ∉ settledItems job succeeded := by
  cases job with
  | pong pong => exact absurd rfl (other pong)
  | command id frames =>
    cases succeeded with
    | false => simp [settledItems]
    | true =>
      simp only [settledItems, sentStatus]
      split <;> simp
  | keepAlive | close | echo | refusal => cases succeeded <;> simp [settledItems]

/-- The end of a write answers a ping exactly when it put a pong on the wire. -/
theorem Owes.settled {job : Job} (owes : connection.Owes told job)
    (error : Option TransportError) :
    (answeredPings (told ++ settledItems job error.isNone)).map
        (Frame.pongFor connection.options.emptyPong) =
      (answeredPings told).map (Frame.pongFor connection.options.emptyPong) ++
        (connection.framesOnWire ⟨job, error⟩).filter (·.opcode = .pong) := by
  have others (other : ∀ pong, job ≠ .pong pong)
      (none : ∀ frame ∈ connection.framesOf job, frame.opcode ≠ .pong) :
      (answeredPings (told ++ settledItems job error.isNone)).map
          (Frame.pongFor connection.options.emptyPong) =
        (answeredPings told).map (Frame.pongFor connection.options.emptyPong) ++
          (connection.framesOnWire ⟨job, error⟩).filter (·.opcode = .pong) := by
    have unsent : (connection.framesOnWire ⟨job, error⟩).filter (·.opcode = .pong) = [] := by
      rw [List.filter_eq_nil_iff]
      intro frame member
      unfold framesOnWire at member
      split at member
      · simpa using none frame member
      · cases member
    rw [answeredPings_append_silent told (not_mem_settledItems_of_other other _), unsent,
      List.append_nil]
  cases job with
  | pong pong =>
    obtain ⟨before, ping, rfl, rfl⟩ := owes
    have pongs := (ping.answers_pongFor connection.options.emptyPong).opcode
    have waiting : answeredPings (before ++ [framed .pingReceived ping]) = answeredPings before :=
      answeredPings_append_silent before (by simp)
    cases error with
    | none =>
      have answered := answeredPings_append_answered before ping
      have sent : connection.framesOnWire
          ⟨.pong (ping.pongFor connection.options.emptyPong), none⟩ =
            [ping.pongFor connection.options.emptyPong] := rfl
      rw [show settledItems (.pong _) (none : Option TransportError).isNone = [.status .pongSent]
        from rfl, answered, waiting, sent, List.filter_singleton, pongs, List.map_append]
      rfl
    | some cause =>
      rw [answeredPings_append_silent _ (by simp [settledItems])]
      exact (List.append_nil _).symm
  | command | keepAlive | close | echo | refusal => exact others (by simp) owes

/-! ## The invariant -/

theorem Owes.congr {job : Job} (owes : connection.Owes told job)
    (same : next.options = connection.options) : next.Owes told job := by
  cases job with
  | pong pong =>
    obtain ⟨before, ping, told, answers⟩ := owes
    exact ⟨before, ping, told, by rw [same, answers]⟩
  | command | keepAlive | close | echo | refusal =>
    intro frame member
    unfold framesOf at member
    rw [same] at member
    exact owes frame member

/-- A write of one frame that is no pong owes nothing to pings. -/
theorem owes_of_single {job : Job} (other : ∀ pong, job ≠ .pong pong) {frame : Frame}
    (frames : connection.framesOf job = [frame]) (noPong : frame.opcode ≠ .pong) :
    connection.Owes told job := by
  have all : ∀ other ∈ connection.framesOf job, other.opcode ≠ .pong := by
    rw [frames]
    exact List.forall_mem_singleton.mpr noPong
  cases job with
  | pong pong => exact absurd rfl (other pong)
  | command | keepAlive | close | echo | refusal => exact all

/-- What is written next owes nothing to pings, unless it is a pong behind the report of its
ping. -/
theorem Advances.owes (advances : connection.Advances items next)
    (answering : connection.Answering told) {job : Job} (writing : next.phase = .writing job) :
    connection.Owes (told ++ items) job := by
  cases advances with
  | cancelsDialing | dialingFails | hostUnfit | beginsSecuring | opensPlain | cancelsSecuring
  | securingFails | opensSecure | upgradeFails | requests | readsHead | upgrades | stops | loses
  | peerAnswers | givesUpPeer | endsWait => simp [startUpgrade, beginExchange] at writing
  | collects reads | hearsPong reads | receives reads => simp [reads.running] at writing
  | dropsFrame waiting => simp [waiting] at writing
  | keepsPart listening =>
    rcases listening with reads | ⟨deadline, waiting⟩
    · simp [reads.running] at writing
    · simp [waiting] at writing
  | @takesSend running going id frames queue queued =>
    cases writing
    refine answering.orders ⟨id, .send frames⟩ ?_
    simp [outstanding, queued]
  | takesClose | abandoned | pings | refuses =>
    cases writing
    exact owes_of_single (by simp) rfl (by simp [Frame.close, Frame.closeRaw, Frame.ping])
  | answersPing =>
    cases writing
    exact ⟨told, _, rfl, rfl⟩
  | peerCloses reads takes pushed close valid =>
    cases writing
    refine owes_of_single (by simp) rfl ?_
    rw [(Frame.isProper_closeEcho valid).2]
    decide
  | writes | failsToWrite => exact absurd writing (settle_not_writing _ _ _ job)
  | usersRun =>
    rw [List.append_nil]
    exact answering.job job writing

/-- A step puts a pong on the wire exactly when it tells so. -/
theorem Advances.map_answeredPings (advances : connection.Advances items next)
    (answering : connection.Answering told) :
    (answeredPings (told ++ items)).map (Frame.pongFor connection.options.emptyPong) =
      (answeredPings told).map (Frame.pongFor connection.options.emptyPong) ++
        (connection.attempted.flatMap connection.framesOnWire).filter (·.opcode = .pong) := by
  rcases advances.attempted_cases with none | ⟨job, error, -, writing, one, rfl, -⟩
  · have silent : .status .pongSent ∉ items := by
      have reports := advances.sendReports_eq
      rw [none] at reports
      intro member
      cases List.filterMap_eq_nil_iff.mp reports _ member
    rw [none, answeredPings_append_silent told silent]
    exact (List.append_nil _).symm
  · rw [one, List.flatMap_singleton]
    exact (answering.job job writing).settled error

/-- Every rule keeps pongs and pings together. -/
theorem Advances.answering (advances : connection.Advances items next)
    (answering : connection.Answering told) : next.Answering (told ++ items) := by
  obtain ⟨dropped, balances⟩ := advances.balances
  have options : next.options = connection.options :=
    congrArg Surroundings.options advances.surroundings_eq
  refine ⟨?_, fun job writing => (advances.owes answering writing).congr options,
    fun command member => ?_⟩
  · rw [Connection.pongs, balances.sent, List.filter_append, options,
      advances.map_answeredPings answering, ← answering.pongs]
    rfl
  · refine answering.orders command ?_
    rw [balances.outstanding]
    exact List.mem_append_left _ (List.mem_append_right _ member)

theorem Answering.apply (answering : connection.Answering told) (input : Input) :
    (connection.apply input).Answering told := by
  have adds := adds_apply connection input
  refine ⟨?_, fun job writing => ?_, fun command member => ?_⟩
  · rw [Connection.pongs, sentFrames, adds.written, options_apply]
    exact answering.pongs
  · have learns := learns_apply connection input
    rw [writing] at learns
    generalize before : connection.phase = phase at learns
    cases learns
    exact (answering.job job before).congr (options_apply ..)
  · rw [adds.outstanding, List.mem_append, Option.mem_toList, Option.bind_eq_some_iff] at member
    rcases member with earlier | ⟨made, -, placed⟩
    · exact answering.orders command earlier
    · obtain ⟨fine, -, -, rfl⟩ := MadeCall.order?_eq_some_iff.mp placed
      exact fun frame sent => made.call.opcode_ne_pong fine sent

variable {url : Url} {options : Options} {nonce : Bytes} {keys : Nat → MaskKey}
  {inputs : List Input}

theorem answering_attach :
    (attach url options nonce keys).Answering
      (attach url options nonce keys).items.toList := by
  refine ⟨?_, fun job writing => (nomatch writing), fun command member => ?_⟩
  · rw [Connection.pongs, sentFrames, written_attach]
    rfl
  · rw [outstanding, callers_attach] at member
    cases member

/-! ## Only pings that were received are answered -/

/-- The event that reports a ping. -/
def pingEvent (ping : Frame) : Event := { status := .pingReceived, frame := some ping }

theorem map_answeredPings_sublist (told : List StreamItem) :
    ((answeredPings told).map pingEvent).Sublist (framedEvents told) := by
  fun_induction answeredPings told with
  | case1 ping later ih => exact ih.cons_cons (pingEvent ping)
  | case2 item later other ih =>
    refine ih.trans ?_
    rw [← List.singleton_append, framedEvents_append]
    exact List.sublist_append_right ..
  | case3 => exact List.Sublist.refl _

/-- What is answered was received before the connection began to close. -/
theorem Advances.answered_received {bytes : Bytes} (advances : connection.Advances items next)
    (accounts : connection.Accounts told bytes)
    (received : ((answeredPings told).map pingEvent).Sublist (eventsBeforeClosing told)) :
    ((answeredPings (told ++ items)).map pingEvent).Sublist
      (eventsBeforeClosing (told ++ items)) := by
  have unsaid (silent : .status .pongSent ∉ items) :
      ((answeredPings (told ++ items)).map pingEvent).Sublist
        (eventsBeforeClosing (told ++ items)) := by
    rw [answeredPings_append_silent told silent]
    exact received.trans (eventsBeforeClosing_mono (List.prefix_append ..)).sublist
  cases advances with
  | @writes job writing working =>
    cases job with
    | pong pong =>
      -- The connection still listens, so that all that was told so far counts.
      rw [Accounts, writing] at accounts
      have all := map_answeredPings_sublist (told ++ settledItems (.pong pong) true)
      rw [framedEvents_append, framedEvents_settledItems, List.append_nil] at all
      rwa [eventsBeforeClosing_append_of_framedEvents (framedEvents_settledItems _ _),
        eventsBeforeClosing_of_not_mem accounts.running]
    | command | keepAlive | close | echo | refusal =>
      exact unsaid (not_mem_settledItems_of_other (by simp) _)
  | @failsToWrite job => cases job <;> exact unsaid (by simp [settledItems])
  | @upgradeFails error =>
    refine unsaid fun said => ?_
    have none := sendReports_upgradeReport error
    cases List.filterMap_eq_nil_iff.mp none _ said
  | _ => exact unsaid (by simp)

/-! ## Every run -/

/-- What a reader who stays is told matches the pongs on the wire, and answers no ping that was not
received. -/
theorem Reaches.answering (reaches : Reaches (attach url options nonce keys) inputs connection) :
    ∃ told, connection.Answering told ∧
      ((answeredPings told).map pingEvent).Sublist (deserved options (received inputs)) ∧
      connection.items.toList <+: told ∧
      (connection.callers.socketHeld = true → connection.items.toList = told) := by
  have opening : Silent [entered .initialized, entered .streamConnected, entered .upgrading] :=
    ⟨by decide, rfl⟩
  have same : connection.options = options := reaches.options_eq
  obtain ⟨told, ⟨accounts, answering, heard⟩, early, whole⟩ := reaches.exists_told
    (fun inputs connection told => connection.Accounts told (received inputs) ∧
      connection.Answering told ∧
      ((answeredPings told).map pingEvent).Sublist (eventsBeforeClosing told))
    ⟨⟨opening, rfl⟩, answering_attach, List.Sublist.refl _⟩
    (fun ⟨accounts, answering, heard⟩ advances =>
      ⟨advances.accounts accounts, advances.answering answering,
        advances.answered_received accounts heard⟩)
    (fun input reaches ⟨accounts, answering, heard⟩ =>
      ⟨accounts_apply accounts (reaches.isSome_ending rfl) input, answering.apply input, heard⟩)
  have within := accounts.within
  rw [Within, same] at within
  exact ⟨told, answering, heard.trans within.sublist, early, whole⟩

theorem forall₂_answers (emptyPong : Bool) (pings : List Frame) :
    List.Forall₂ (Frame.Answers emptyPong) pings (pings.map (Frame.pongFor emptyPong)) := by
  rw [List.forall₂_map_right_iff, List.forall₂_same]
  exact fun ping _ => ping.answers_pongFor emptyPong

/-- The pongs on the wire answer, one by one and in their order, the pings after whose report the
event stream says that a pong was sent. After the reader has left they answer further pings that
were received. A ping after whose report the event stream says that a write failed has no pong, and
no pong follows a close frame. -/
theorem Reaches.pongs_answer_pings (valid : options.validate = .ok ())
    (reaches : Reaches (attach url options nonce keys) inputs connection) :
    (∃ pings, List.Forall₂ (Frame.Answers options.emptyPong) pings connection.pongs ∧
      answeredPings connection.items.toList <+: pings ∧
      (connection.callers.socketHeld = true → pings = answeredPings connection.items.toList) ∧
      (pings.map pingEvent).Sublist (deserved options (received inputs))) ∧
    (connection.callers.socketHeld = true → ∀ before ping after,
      connection.items.toList =
        before ++ framed .pingReceived ping :: .status .sendFailed :: after →
      ∃ early late, connection.pongs = early ++ late ∧
        List.Forall₂ (Frame.Answers options.emptyPong) (answeredPings before) early ∧
        List.Forall₂ (Frame.Answers options.emptyPong) (answeredPings after) late) ∧
    ∀ before close after, connection.sentFrames = before ++ close :: after →
      close.opcode = .close → ∀ frame ∈ after, frame.opcode ≠ .pong := by
  obtain ⟨told, answering, heard, early, whole⟩ := reaches.answering
  have same : connection.options = options := reaches.options_eq
  have pongs := answering.pongs
  rw [same] at pongs
  refine ⟨⟨answeredPings told, ?_, answeredPings_mono early, ?_, heard⟩, ?_, ?_⟩
  · rw [pongs]
    exact forall₂_answers _ _
  · intro held
    rw [whole held]
  · intro held before ping after split
    rw [← whole held, split, answeredPings_append before (by simp), List.map_append] at pongs
    exact ⟨_, _, pongs, forall₂_answers _ _, forall₂_answers _ _⟩
  · intro before close after split closes frame member
    have ordered := reaches.pairwise_sentFrames valid
    rw [split, List.pairwise_append, List.pairwise_cons] at ordered
    exact absurd closes (ordered.2.1.1 frame member)

/-- Two pings are answered, one of them empty and inside a fragmented message; the answer to a third
one cannot be written any more. -/
theorem pongs_answer_pings_until_writes_break :
    let options : Options := { emptyPong := false }
    let start := attach plainStart.url options plainStart.nonce plainStart.keys
    let bytes := agreement ++ [0x01, 0x01, 0x61, 0x89, 0x00, 0x80, 0x01, 0x62, 0x89, 0x01, 0x70]
    let answered := (start.apply (.arrive bytes)).stepUpTo 12
    let broken := answered.apply (.setWrites (.broken "gone"))
    let ended := (broken.apply (.arrive [0x89, 0x01, 0x71])).stepUpTo 2
    let inputs := [.arrive bytes, .setWrites (.broken "gone"), .arrive [0x89, 0x01, 0x71]]
    options.validate = .ok () ∧ Reaches start inputs ended ∧ ended.callers.socketHeld = true ∧
      answeredPings ended.items.toList = [.ping [], .ping [0x70]] ∧
      ended.items.back? = some (.status .sendFailed) ∧ ended.pongs = [.pong [0], .pong [0x70]] ∧
      List.Forall₂ (Frame.Answers false) [.ping [], .ping [0x70]] ended.pongs := by
  intro options start bytes answered broken ended inputs
  have valid : options.validate = .ok () := rfl
  have reaches : Reaches start inputs ended :=
    ((((Reaches.start.apply _).stepUpTo 12).apply _).apply _).stepUpTo 2
  obtain ⟨held, told, last, pongs⟩ : ended.callers.socketHeld = true ∧
      answeredPings ended.items.toList = [.ping [], .ping [0x70]] ∧
      ended.items.back? = some (.status .sendFailed) ∧
      ended.pongs = [.pong [0], .pong [0x70]] := by
    decide +kernel
  obtain ⟨⟨pings, answers, -, all, -⟩, -⟩ := Reaches.pongs_answer_pings valid reaches
  rw [all held, told] at answers
  exact ⟨valid, reaches, held, told, last, pongs, answers⟩

end Connection

end WebSocket
