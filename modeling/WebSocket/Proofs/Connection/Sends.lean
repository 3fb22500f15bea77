import Mathlib.Data.List.Induction
import Mathlib.Data.List.Nodup
import WebSocket.Proofs.Connection.Ledger

/-! # Sends are carried out in order and answered truthfully

What the users asked for and what stands on the wire, as the books of a run have it (`Faithful`).
Every call has one answer or is still pending. The frames on the wire are those of one write after
the other; without what the connection writes on its own accord they are the frames of the orders
that were answered with success, in the order in which the orders were placed. Nothing follows an
order to close, and what stood in the queue behind it is answered with an error.
-/

namespace WebSocket

/-! ## Orders -/

namespace Order

/-- The frames that an order asks for. -/
def frames : Order → List Frame
  | send frames => frames
  | close reason => [.close .away (Bytes.ofString reason)]

def isClose : Order → Bool
  | send _ => false
  | close _ => true

end Order

namespace Job

variable {job : Job} {command : Command}

/-- An order is carried out by writing its frames. -/
theorem framesOf_of_order (carriesOut : job.order? = some command) (connection : Connection) :
    connection.framesOf job = command.order.frames := by
  cases job with
  | command id frames =>
    cases carriesOut
    rfl
  | close reason id =>
    cases id with
    | none => cases carriesOut
    | some id =>
      cases carriesOut
      rfl
  | keepAlive | pong | echo | refusal => cases carriesOut

theorem isFinal_of_order (carriesOut : job.order? = some command) :
    job.isFinal = command.order.isClose := by
  cases job with
  | command id frames =>
    cases carriesOut
    rfl
  | close reason id =>
    cases id with
    | none => cases carriesOut
    | some id =>
      cases carriesOut
      rfl
  | keepAlive | pong | echo | refusal => cases carriesOut

end Job

/-- Every call places an order or is answered at once, and no number is given twice. -/
theorem MadeCall.perm_ids (calls : List MadeCall) :
    ((answers calls).map Answer.id ++ (orders calls).map Command.id).Perm
      (List.range calls.length) := by
  induction calls using List.reverseRecOn with
  | nil => rfl
  | append_singleton calls made ih =>
    rw [orders_append, answers_append, List.length_append, List.length_singleton,
      List.range_succ]
    have before := List.perm_iff_count.mp ih
    refine List.perm_iff_count.mpr fun id => ?_
    have same := before id
    rcases made.order?_or_answer? calls.length with ⟨order, placed, none⟩ | ⟨error, none, given⟩
    · simp only [placed, none, Option.toList_some, Option.toList_none, List.append_nil,
        List.map_append, List.map_cons, List.map_nil, List.count_append] at same ⊢
      omega
    · simp only [given, none, Option.toList_some, Option.toList_none, List.append_nil,
        List.map_append, List.map_cons, List.map_nil, List.count_append] at same ⊢
      omega

/-! ## Reports -/

/-- The status under which a write is reported, if it is reported at all. -/
def Attempt.report? (attempt : Attempt) : Option ConnectionStatus :=
  match attempt.job, attempt.error with
  | .command _ frames, none => some (Connection.sentStatus frames)
  | .keepAlive, none => some .pingSent
  | .pong _, none => some .pongSent
  | .command .., some _ | .keepAlive, some _ | .pong _, some _ | .close .., some _ =>
    some .sendFailed
  | .close .., none | .echo _, _ | .refusal _, _ => none

/-- Whether a status is about something that was to be sent. -/
def ConnectionStatus.isAboutSending : ConnectionStatus → Bool
  | pingSent | pongSent | sendComplete | sendFailed => true
  | _ => false

/-- What the event stream says about writes. -/
def sendReports (items : List StreamItem) : List ConnectionStatus :=
  items.filterMap fun
    | .event event => if event.status.isAboutSending then some event.status else none
    | .failure _ => none

theorem sendReports_append (told items : List StreamItem) :
    sendReports (told ++ items) = sendReports told ++ sendReports items :=
  List.filterMap_append

namespace Connection

variable {connection next : Connection} {items : List StreamItem}

/-- Whether a call was answered with success. -/
def isGranted (connection : Connection) (id : Nat) : Bool :=
  connection.callers.answers.toList.contains ⟨id, none⟩

theorem sendReports_upgradeReport (error : Error) :
    sendReports (upgradeReport error ++ [.entered .aborted, .failure error]) = [] := by
  cases error with
  | upgrade cause => cases cause <;> rfl
  | _ => rfl

/-- Every write is reported once at most, when it ends. -/
theorem Advances.sendReports_eq (advances : connection.Advances items next) :
    sendReports items = connection.attempted.filterMap Attempt.report? := by
  have quiet (notWriting : ∀ job, connection.phase ≠ .writing job)
      (silent : sendReports items = []) :
      sendReports items = connection.attempted.filterMap Attempt.report? := by
    rw [silent, attempted_of_not_writing notWriting]
    rfl
  cases advances with
  | cancelsDialing phase | dialingFails phase | hostUnfit phase | beginsSecuring phase
  | opensPlain phase | cancelsSecuring phase | securingFails phase | opensSecure phase
  | requests phase | readsHead phase | upgrades phase | stops phase | takesSend phase
  | takesClose phase | abandoned phase | pings phase | dropsFrame phase | peerAnswers phase
  | givesUpPeer phase | endsWait phase => exact quiet (by simp [phase]) rfl
  | refuses reads | collects reads | answersPing reads | hearsPong reads | peerCloses reads
  | receives reads | loses reads => exact quiet (by simp [reads.running]) rfl
  | upgradeFails fails => exact quiet fails.not_writing (sendReports_upgradeReport _)
  | keepsPart listening =>
    rcases listening with reads | ⟨deadline, waiting⟩
    · exact quiet (by simp [reads.running]) rfl
    · exact quiet (by simp [waiting]) rfl
  | @writes job writing working =>
    rw [attempted, writing, working]
    cases job with
    | command id frames =>
      simp only [settledItems, sentStatus, Attempt.report?, List.filterMap_cons, List.filterMap_nil]
      split <;> rfl
    | _ => rfl
  | @failsToWrite job writing detail broken =>
    rw [attempted, writing, broken]
    cases job <;> rfl
  | usersRun stuck =>
    rw [attempted_of_stuck stuck]
    rfl

variable {start : Connection} {inputs : List Input} {calls : List MadeCall}
  {attempts : List Attempt}

/-- The reader is told of every write that is to be reported, in order, and a reader who leaves of
those at the beginning. -/
theorem Records.reported (records : Records start inputs calls attempts connection)
    (silent : sendReports start.items.toList = []) :
    sendReports connection.items.toList <+: attempts.filterMap Attempt.report? ∧
      (connection.callers.socketHeld = true →
        sendReports connection.items.toList = attempts.filterMap Attempt.report?) := by
  induction records with
  | start => simp [silent]
  | @step inputs calls attempts connection next records step ih =>
    obtain ⟨early, whole⟩ := ih
    obtain ⟨items, advances⟩ := advances_of_step? step
    have tells := advances.tells
    have telling : sendReports next.items.toList = sendReports connection.items.toList ++
        if connection.callers.socketHeld then connection.attempted.filterMap Attempt.report?
        else [] := by
      rw [tells.items, sendReports_append]
      split
      · rw [advances.sendReports_eq]
      · rfl
    rw [telling, tells.held, List.filterMap_append]
    constructor
    · split
      · next held => exact whole held ▸ List.prefix_rfl
      · rw [List.append_nil]
        exact early.trans (List.prefix_append ..)
    · intro held
      rw [if_pos held, whole held]
  | apply records input ih =>
    obtain ⟨early, whole⟩ := ih
    rw [items_apply]
    exact ⟨early, fun held => whole (socketHeld_of_apply held)⟩

/-! ## One answer for every call -/

variable {dropped : List Command}

/-- Every call has one answer or is pending. -/
theorem Audit.accounted (audit : Audit calls attempts dropped connection) :
    (connection.callers.answers.toList.map Answer.id ++ connection.pending).Perm
      (List.range calls.length) := by
  have calling := List.perm_iff_count.mp (MadeCall.perm_ids calls)
  have answering := List.perm_iff_count.mp (audit.answers.map Answer.id)
  refine List.perm_iff_count.mpr fun id => ?_
  have called := calling id
  have answered := answering id
  have same : (dropped.map Command.notTaken).map Answer.id = dropped.map Command.id := by
    rw [List.map_map]
    rfl
  rw [audit.orders] at called
  rw [pending_eq]
  simp only [List.map_append, List.count_append, same, Attempt.map_id_answer?] at called answered ⊢
  omega

theorem Audit.nodup (audit : Audit calls attempts dropped connection) :
    (connection.callers.answers.toList.map Answer.id ++ connection.pending).Nodup :=
  audit.accounted.nodup_iff.mpr List.nodup_range

/-- Two answers to one call are the same. -/
theorem Audit.answer_unique (audit : Audit calls attempts dropped connection)
    {first second : Answer} (isFirst : first ∈ connection.callers.answers)
    (isSecond : second ∈ connection.callers.answers) (same : first.id = second.id) :
    first = second := by
  rw [Array.mem_def] at isFirst isSecond
  exact List.inj_on_of_nodup_map audit.nodup.of_append_left isFirst isSecond same

/-- The end of a write is answered as it came. -/
theorem Audit.answered (audit : Audit calls attempts dropped connection) {attempt : Attempt}
    {command : Command} (member : attempt ∈ attempts) (order : attempt.order? = some command) :
    ⟨command.id, attempt.error.map .transport⟩ ∈ connection.callers.answers := by
  rw [Array.mem_def, audit.answers.mem_iff, List.mem_append, List.mem_append]
  exact .inl (.inr (List.mem_filterMap.mpr ⟨attempt, member, by rw [Attempt.answer?, order]; rfl⟩))

theorem Audit.notTaken (audit : Audit calls attempts dropped connection) {command : Command}
    (member : command ∈ dropped) : command.notTaken ∈ connection.callers.answers := by
  rw [Array.mem_def, audit.answers.mem_iff, List.mem_append]
  exact .inr (List.mem_map_of_mem member)

theorem isGranted_iff {id : Nat} :
    connection.isGranted id = true ↔ ⟨id, none⟩ ∈ connection.callers.answers := by
  rw [isGranted, List.contains_iff_mem, Array.mem_def]

/-- An order that was carried out is answered with success exactly when its write succeeded. -/
theorem Audit.isGranted_iff_of_order (audit : Audit calls attempts dropped connection)
    {attempt : Attempt} {command : Command} (member : attempt ∈ attempts)
    (order : attempt.order? = some command) :
    connection.isGranted command.id = attempt.error.isNone := by
  have given := audit.answered member order
  cases error : attempt.error with
  | none =>
    rw [error] at given
    exact isGranted_iff.mpr given
  | some cause =>
    rw [error] at given
    rw [Option.isNone_some, ← Bool.not_eq_true, isGranted_iff]
    intro granted
    cases audit.answer_unique granted given rfl

/-- What was not carried out is not answered with success. -/
theorem Audit.not_granted (audit : Audit calls attempts dropped connection) {command : Command}
    (member : command ∈ connection.outstanding ++ dropped) :
    connection.isGranted command.id = false := by
  rw [← Bool.not_eq_true, isGranted_iff]
  intro granted
  rw [List.mem_append] at member
  rcases member with pending | gone
  · have answered : command.id ∈ connection.callers.answers.toList.map Answer.id :=
      List.mem_map.mpr ⟨_, Array.mem_def.mp granted, rfl⟩
    have waiting : command.id ∈ connection.pending := by
      rw [pending_eq]
      exact List.mem_map_of_mem pending
    exact (List.nodup_append.mp audit.nodup).2.2 _ answered _ waiting rfl
  · cases audit.answer_unique granted (audit.notTaken gone) rfl

/-- Of the orders, those that were answered with success are among those that were carried out. -/
theorem Audit.filter_granted (audit : Audit calls attempts dropped connection) :
    (MadeCall.orders calls).filter (connection.isGranted ·.id) =
      (attempts.filterMap Attempt.order?).filter (connection.isGranted ·.id) := by
  rw [audit.orders, List.append_assoc, List.filter_append, List.append_right_eq_self,
    List.filter_eq_nil_iff]
  intro command member
  rw [audit.not_granted member]
  exact Bool.false_ne_true

/-- Writes that carry out orders put the frames of those on the wire that were answered with
success. -/
theorem flatMap_framesOnWire (attempts : List Attempt)
    (truth : ∀ attempt ∈ attempts, ∀ command, attempt.order? = some command →
      connection.isGranted command.id = attempt.error.isNone) :
    (attempts.filter (·.order?.isSome)).flatMap connection.framesOnWire =
      ((attempts.filterMap Attempt.order?).filter (connection.isGranted ·.id)).flatMap
        (·.order.frames) := by
  induction attempts with
  | nil => rfl
  | cons attempt attempts ih =>
    have rest := ih fun later member => truth later (List.mem_cons_of_mem _ member)
    cases order : attempt.order? with
    | none => simpa [order] using rest
    | some command =>
      have same := truth attempt List.mem_cons_self command order
      have frames := Job.framesOf_of_order order connection
      cases error : attempt.error with
      | none =>
        rw [error] at same
        simp [order, same, rest, framesOnWire, error, frames]
      | some cause =>
        rw [error] at same
        simp [order, same, rest, framesOnWire, error]

/-! ## The books and what can be seen -/

/-- What can be seen of a run is what its books say. -/
structure Faithful (inputs : List Input) (calls : List MadeCall) (attempts : List Attempt)
    (connection : Connection) : Prop where
  made : calls.map MadeCall.call = callsIn inputs
  /-- Every call has one answer or is still pending. -/
  accounted : (connection.callers.answers.toList.map Answer.id ++ connection.pending).Perm
    (List.range calls.length)
  /-- In the end every call has its answer. -/
  finished : connection.isOver = true → connection.pending = []
  /-- Calls that place no order are answered as their check says. -/
  immediate : ∀ answer ∈ MadeCall.answers calls, answer ∈ connection.callers.answers
  /-- The wire carries the frames of one write after those of another. -/
  wire : connection.sentFrames = attempts.flatMap connection.framesOnWire
  /-- Orders are carried out in the order in which they were placed. -/
  inOrder : attempts.filterMap Attempt.order? <+: MadeCall.orders calls
  /-- Without what the connection writes on its own accord, the frames on the wire are those of the
  orders that were answered with success. -/
  granted : (attempts.filter (·.order?.isSome)).flatMap connection.framesOnWire =
    ((MadeCall.orders calls).filter (connection.isGranted ·.id)).flatMap (·.order.frames)
  /-- Of these orders only the last one can be to close. -/
  closing : ((MadeCall.orders calls).filter (connection.isGranted ·.id)).Pairwise
    fun earlier _ => earlier.order.isClose = false
  /-- A call that was answered with an error has no frame on the wire. -/
  refused : ∀ id error, ⟨id, some error⟩ ∈ connection.callers.answers →
    ∀ attempt ∈ attempts, attempt.order?.map Command.id = some id →
      connection.framesOnWire attempt = []
  /-- What was ordered after an order to close is never carried out, and in the end is answered with
  an error. -/
  behindClose : (MadeCall.orders calls).Pairwise fun earlier later =>
    earlier.order.isClose = true → later ∉ attempts.filterMap Attempt.order? ∧
      (connection.isOver = true → later.notTaken ∈ connection.callers.answers)
  /-- The event stream reports the writes in order, and all of them to a reader who stays. -/
  reported : sendReports connection.items.toList <+: attempts.filterMap Attempt.report? ∧
    (connection.callers.socketHeld = true →
      sendReports connection.items.toList = attempts.filterMap Attempt.report?)

/-- Only the last of the orders that were carried out can be to close. -/
theorem EndsWithFinal.orders_closing (ends : EndsWithFinal attempts connection) :
    (attempts.filterMap Attempt.order?).Pairwise fun earlier _ =>
      earlier.order.isClose = false := by
  refine List.Pairwise.filterMap _ ?_ ends.last
  intro first second notFinal earlier isFirst later isSecond
  rw [← Job.isFinal_of_order isFirst, notFinal]

theorem Audit.refused (audit : Audit calls attempts dropped connection) {id : Nat} {error : Error}
    (given : ⟨id, some error⟩ ∈ connection.callers.answers) {attempt : Attempt}
    (member : attempt ∈ attempts) (carriesOut : attempt.order?.map Command.id = some id) :
    connection.framesOnWire attempt = [] := by
  obtain ⟨command, order, rfl⟩ := Option.map_eq_some_iff.mp carriesOut
  have same := audit.answer_unique given (audit.answered member order) rfl
  cases failed : attempt.error with
  | none => simp [failed] at same
  | some cause => simp [framesOnWire, failed]

/-- Nothing that was ordered after an order to close is carried out. -/
theorem Audit.behindClose (audit : Audit calls attempts dropped connection)
    (ends : EndsWithFinal attempts connection) :
    (MadeCall.orders calls).Pairwise fun earlier later =>
      earlier.order.isClose = true → later ∉ attempts.filterMap Attempt.order? ∧
        (connection.isOver = true → later.notTaken ∈ connection.callers.answers) := by
  have sorted := MadeCall.orders_sorted calls
  rw [audit.orders, List.append_assoc, List.pairwise_append] at sorted
  -- An order that was not carried out is outstanding or dropped, and only the latter in the end.
  have left : ∀ later ∈ connection.outstanding ++ dropped,
      later ∉ attempts.filterMap Attempt.order? ∧
        (connection.isOver = true → later.notTaken ∈ connection.callers.answers) := by
    intro later member
    refine ⟨fun earlier => absurd (sorted.2.2 _ earlier _ member) (Nat.lt_irrefl _),
      fun finished => ?_⟩
    rw [audit.emptied finished, List.nil_append] at member
    exact audit.notTaken member
  rw [audit.orders, List.append_assoc, List.pairwise_append]
  refine ⟨?_, ?_, fun earlier _ later member _ => left later member⟩
  · refine ends.orders_closing.imp fun going close => ?_
    rw [going] at close
    cases close
  · exact List.pairwise_of_forall_mem_list fun earlier _ later member _ => left later member

/-- Whoever keeps the books of a run sees in them what can be seen of the run, and the books of
every run can be kept: every call has one answer, the frames on the wire are those of the orders
that were answered with success, in their order, and nothing follows an order to close. -/
theorem Reaches.sends_faithful {url : Url} {options : Options} {nonce : Bytes}
    {keys : Nat → MaskKey} (reaches : Reaches (attach url options nonce keys) inputs connection) :
    (∃ calls attempts, Records (attach url options nonce keys) inputs calls attempts connection) ∧
      ∀ calls attempts, Records (attach url options nonce keys) inputs calls attempts connection →
        Faithful inputs calls attempts connection := by
  refine ⟨reaches.exists_records, fun calls attempts records => ?_⟩
  obtain ⟨dropped, audit⟩ := records.audit
  have ends := records.endsWithFinal
  constructor
  case made => exact records.map_call
  case accounted => exact audit.accounted
  case finished =>
    intro finished
    rw [pending_eq, audit.emptied finished]
    rfl
  case immediate =>
    intro answer member
    rw [Array.mem_def, audit.answers.mem_iff, List.append_assoc]
    exact List.mem_append_left _ member
  case wire => exact audit.sent
  case inOrder =>
    rw [audit.orders, List.append_assoc]
    exact List.prefix_append ..
  case granted =>
    rw [audit.filter_granted]
    exact flatMap_framesOnWire _ fun attempt member command order =>
      audit.isGranted_iff_of_order member order
  case closing =>
    rw [audit.filter_granted]
    exact ends.orders_closing.sublist List.filter_sublist
  case refused => exact fun id error given attempt member => audit.refused given member
  case behindClose => exact audit.behindClose ends
  case reported => exact records.reported rfl

/-- A message in two parts, the pong for a ping, a close and a text that comes too late. -/
theorem sends_faithful_of_late_text :
    let opened := (plainStart.apply (.arrive agreement)).stepUpTo 10
    let sent := ([.call (.textParts ["a", "b"]), .arrive [0x89, 0x01, 0x70]].foldl apply
      opened).stepUpTo 10
    let ended := ([.call (.close "bye"), .call (.text "c"), .arrive [0x88, 0x00]].foldl apply
      sent).stepUpTo 10
    let inputs := [.arrive agreement, .call (.textParts ["a", "b"]), .arrive [0x89, 0x01, 0x70],
      .call (.close "bye"), .call (.text "c"), .arrive [0x88, 0x00]]
    Reaches plainStart inputs ended ∧ ended.isOver = true ∧
      ended.callers.answers.toList = [⟨0, none⟩, ⟨1, none⟩, ⟨2, some (.call .notConnected)⟩] ∧
      ended.sentFrames =
        [.fragment .text .first [0x61], .fragment .continuation .last [0x62], .pong [0x70],
          .close .away [0x62, 0x79, 0x65]] ∧
      (∃ calls attempts, Records plainStart inputs calls attempts ended) ∧
      ∀ calls attempts, Records plainStart inputs calls attempts ended →
        Faithful inputs calls attempts ended := by
  intro opened sent ended inputs
  have opening : Reaches plainStart [.arrive agreement] opened :=
    (Reaches.start.apply _).stepUpTo 10
  have sending : Reaches plainStart _ sent := (opening.foldl_apply _).stepUpTo 10
  have reaches : Reaches plainStart inputs ended := (sending.foldl_apply _).stepUpTo 10
  obtain ⟨finished, answers, frames⟩ : ended.isOver = true ∧
      ended.callers.answers.toList = [⟨0, none⟩, ⟨1, none⟩, ⟨2, some (.call .notConnected)⟩] ∧
      ended.sentFrames =
        [.fragment .text .first [0x61], .fragment .continuation .last [0x62], .pong [0x70],
          .close .away [0x62, 0x79, 0x65]] := by
    decide +kernel
  exact ⟨reaches, finished, answers, frames, Reaches.sends_faithful reaches⟩

end Connection

end WebSocket
