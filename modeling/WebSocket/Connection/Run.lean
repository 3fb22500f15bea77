import WebSocket.Connection.Step
import WebSocket.Frame.Drain

/-! # Running a connection

`Connection.run` lets a connection go on until it has nothing left to do. That always ends: every
step either takes the connection to a later phase, or stays in the phase and lowers a price. An
order costs more while it waits than while it is carried out, and its answer costs less still; a
ping that is due costs more than its write, and so does what a call of the decoder takes. Main
statements: every step pays (`step?_pays`) and a run ends idle (`step?_run`).
-/

namespace WebSocket

/-! ## The price of what is left to do -/

/-- Whether the connection closes after this write. -/
def Job.isFinal : Job → Bool
  | .close .. | .echo _ | .refusal _ => true
  | .command .. | .keepAlive | .pong _ => false

def Job.price : Job → Nat
  | .command .. => 2
  | _ => 1

/-- How many phases may still follow. -/
def Phase.rank : Phase → Nat
  | dialing .. => 7
  | securing _ => 6
  | requesting _ => 5
  | awaitingHead .. => 4
  | connected => 3
  | writing job => if job.isFinal then 2 else 3
  | awaitingClose _ => 1
  | ended => 0

def Phase.price : Phase → Nat
  | writing job => job.price
  | _ => 0

def Callers.price (callers : Callers) : Nat :=
  4 * callers.waiting.length + 3 * callers.queue.length + callers.unnoticed

/-- Twice a bound on the pings that are due. -/
def KeepAlive.price (schedule : KeepAlive) (now : Nat) : Nat :=
  2 * (now + 1 - schedule.due)

namespace Connection

def price (connection : Connection) : Nat :=
  connection.phase.price + connection.callers.price
    + 2 * connection.decoder.backlog connection.stream.inbox
    + connection.keepAlive.elim 0 (·.price connection.now)

/-- Whether a connection has less left to do than another one. -/
def Pays (next connection : Connection) : Prop :=
  next.phase.rank < connection.phase.rank ∨
    next.phase.rank = connection.phase.rank ∧ next.price < connection.price

theorem Pays.of_rank {next connection : Connection}
    (later : next.phase.rank < connection.phase.rank) : Pays next connection :=
  .inl later

/-! ## Recording changes nothing that has a price -/

section recording

variable (connection : Connection)

@[simp] theorem phase_emit (item : StreamItem) :
    (connection.emit item).phase = connection.phase := rfl

@[simp] theorem callers_emit (item : StreamItem) :
    (connection.emit item).callers = connection.callers := rfl

@[simp] theorem stream_emit (item : StreamItem) :
    (connection.emit item).stream = connection.stream := rfl

@[simp] theorem decoder_emit (item : StreamItem) :
    (connection.emit item).decoder = connection.decoder := rfl

@[simp] theorem keepAlive_emit (item : StreamItem) :
    (connection.emit item).keepAlive = connection.keepAlive := rfl

@[simp] theorem now_emit (item : StreamItem) : (connection.emit item).now = connection.now := rfl

@[simp] theorem phase_fail (state : ConnectionState) (error : Error) :
    (connection.fail state error).phase = .ended := rfl

@[simp] theorem phase_failUpgrade (error : Error) :
    (connection.failUpgrade error).phase = .ended := rfl

@[simp] theorem phase_finishClosing : connection.finishClosing.phase = .ended := rfl

@[simp] theorem phase_write (job : Job) : (connection.write job).phase = .writing job := rfl

end recording

/-! ## Every step pays -/

theorem pays_of_ended {next connection : Connection} (ended : next.phase = .ended)
    (alive : 0 < connection.phase.rank) : Pays next connection :=
  .of_rank (by rw [ended]; exact alive)

theorem backlog_decodeNext_lt {connection : Connection}
    (given : connection.decodeNext.outcome ≠ .ok none) :
    connection.decodeNext.decoder.backlog connection.decodeNext.rest <
      connection.decoder.backlog connection.stream.inbox :=
  Decoder.backlog_decode_lt given

/-- Decoding on pays for at most one write. -/
theorem pays_receive {connection taken : Connection} (frame : Frame)
    (running : connection.phase = .connected) (same : taken.phase = connection.phase)
    (callers : taken.callers = connection.callers)
    (keepAlive : taken.keepAlive = connection.keepAlive) (now : taken.now = connection.now)
    (lower : taken.decoder.backlog taken.stream.inbox <
      connection.decoder.backlog connection.stream.inbox) :
    Pays (taken.receive frame) connection := by
  have quiet : ∀ next : Connection, next.phase = .connected → next.callers = taken.callers →
      next.stream = taken.stream → next.decoder = taken.decoder →
      next.keepAlive = taken.keepAlive → next.now = taken.now → Pays next connection := by
    intro next phase nextCallers nextStream nextDecoder nextKeepAlive nextNow
    refine .inr ⟨by rw [phase, running], ?_⟩
    simp only [price, phase, running, nextCallers, nextStream, nextDecoder, nextKeepAlive, nextNow,
      callers, keepAlive, now]
    omega
  have refusing : ∀ (before : Connection) (cause : Violation),
      Pays (before.write (.refusal cause)) connection :=
    fun before cause => .of_rank (by rw [running]; exact Nat.lt_succ_self 2)
  have still : taken.phase = .connected := same.trans running
  unfold receive
  split
  · exact refusing _ _
  · split
    · exact refusing _ _
    · exact quiet _ still rfl rfl rfl rfl rfl
    · unfold deliver
      split
      · exact refusing _ _
      · refine .inr ⟨by rw [running]; rfl, ?_⟩
        simp only [price, write, reportFrame, callers_emit, stream_emit, decoder_emit,
          keepAlive_emit, now_emit, running, callers, keepAlive, now, Phase.price, Job.price]
        omega
      · exact quiet _ (by simp [reportFrame, still]) (by simp [reportFrame])
          (by simp [reportFrame]) (by simp [reportFrame]) (by simp [reportFrame])
          (by simp [reportFrame])
      · exact .of_rank (by rw [running]; exact Nat.lt_succ_self 2)
      · split
        · exact refusing _ _
        · exact quiet _ (by simp [reportFrame, still]) (by simp [reportFrame])
            (by simp [reportFrame]) (by simp [reportFrame]) (by simp [reportFrame])
            (by simp [reportFrame])

theorem pays_keepPart? {connection next : Connection} (step : connection.keepPart? = some next) :
    Pays next connection := by
  unfold keepPart? at step
  split at step
  · next shorter =>
    cases step
    have lower := Decoder.backlog_decode_lt_of_shorter shorter
    refine .inr ⟨rfl, ?_⟩
    simp only [price, afterDecoding, withInbox]
    simp only [decodeNext] at lower ⊢
    omega
  · cases step

theorem pays_stepReading {connection next : Connection} (running : connection.phase = .connected)
    (step : connection.stepReading = some next) : Pays next connection := by
  have ending : ∀ (before : Connection) (error : Error),
      Pays (before.fail .aborted error) connection :=
    fun _ _ => pays_of_ended rfl (by rw [running]; exact Nat.succ_pos 2)
  unfold stepReading at step
  dsimp only at step
  split at step
  · next decoded =>
    cases step
    exact pays_receive _ running rfl rfl rfl rfl (backlog_decodeNext_lt (by simp [decoded]))
  · cases step
    exact .of_rank (by rw [running]; exact Nat.lt_succ_self 2)
  · cases step
    exact ending _ _
  · cases step
    exact ending _ _
  · exact pays_keepPart? step

theorem pays_stepConnected {connection next : Connection} (running : connection.phase = .connected)
    (step : connection.stepConnected = some next) : Pays next connection := by
  have closing : ∀ before : Connection, ∀ reason id,
      Pays (before.write (.close reason id)) connection :=
    fun _ _ _ => .of_rank (by rw [running]; exact Nat.lt_succ_self 2)
  unfold stepConnected at step
  split at step
  · cases step
    exact pays_of_ended rfl (by rw [running]; exact Nat.succ_pos 2)
  · split at step
    · next command queue queued =>
      cases step
      unfold obey
      split
      · refine .inr ⟨by rw [running]; rfl, ?_⟩
        simp only [price, write, running, queued, Phase.price, Job.price, Callers.price,
          List.length_cons]
        omega
      · exact closing _ _ _
    · split at step
      · cases step
        exact closing _ _ _
      · split at step
        · next schedule scheduled =>
          split at step
          · next due =>
            cases step
            refine .inr ⟨by rw [running]; rfl, ?_⟩
            have later := schedule.due_lt_due_take connection.now
            have late : schedule.due ≤ connection.now := by simpa [KeepAlive.isDue] using due
            simp only [price, write, running, scheduled, Phase.price, Job.price, Option.elim,
              KeepAlive.price]
            omega
          · exact pays_stepReading running step
        · exact pays_stepReading running step

theorem pays_settle {connection : Connection} {job : Job} (before : Connection)
    (writing : connection.phase = .writing job) (callers : before.callers = connection.callers)
    (stream : before.stream = connection.stream) (decoder : before.decoder = connection.decoder)
    (keepAlive : before.keepAlive = connection.keepAlive) (now : before.now = connection.now)
    (error : Option TransportError) : Pays (before.settle job error) connection := by
  unfold settle
  cases job with
  | command id frames =>
    refine .inr ⟨by rw [writing]; rfl, ?_⟩
    simp only [price, answer, report, callers_emit, stream_emit, decoder_emit, keepAlive_emit,
      now_emit, writing, callers, stream, decoder, keepAlive, now, Phase.price, Job.price,
      Callers.price, Callers.answer]
    omega
  | keepAlive =>
    refine .inr ⟨by rw [writing]; rfl, ?_⟩
    simp only [price, report, callers_emit, stream_emit, decoder_emit, keepAlive_emit, now_emit,
      writing, callers, stream, decoder, keepAlive, now, Phase.price, Job.price]
    omega
  | pong frame =>
    refine .inr ⟨by rw [writing]; rfl, ?_⟩
    simp only [price, report, callers_emit, stream_emit, decoder_emit, keepAlive_emit, now_emit,
      writing, callers, stream, decoder, keepAlive, now, Phase.price, Job.price]
    omega
  | close reason id =>
    refine .of_rank ?_
    rw [writing]
    dsimp only
    split <;> simp [Phase.rank, Job.isFinal]
  | echo frame => exact pays_of_ended rfl (by rw [writing]; exact Nat.succ_pos 1)
  | refusal cause => exact pays_of_ended rfl (by rw [writing]; exact Nat.succ_pos 1)

theorem pays_stepWriting {connection next : Connection} {job : Job}
    (writing : connection.phase = .writing job) (step : connection.stepWriting job = some next) :
    Pays next connection := by
  unfold stepWriting at step
  split at step
  · cases step
    exact pays_settle (connection.record _) writing rfl rfl rfl rfl rfl _
  · cases step
    exact pays_settle connection writing rfl rfl rfl rfl rfl _
  · cases step

theorem pays_stepAwaitingClose {connection next : Connection} {deadline : Nat}
    (waiting : connection.phase = .awaitingClose deadline)
    (step : connection.stepAwaitingClose deadline = some next) : Pays next connection := by
  have ending : ∀ before : Connection, Pays before.finishClosing connection :=
    fun _ => pays_of_ended rfl (by rw [waiting]; exact Nat.succ_pos 0)
  unfold stepAwaitingClose at step
  dsimp only at step
  split at step
  · next frame decoded =>
    split at step
    · cases step
      exact ending _
    · cases step
      have lower := @backlog_decodeNext_lt connection (by simp [decoded])
      refine .inr ⟨rfl, ?_⟩
      simp only [price, afterDecoding, withInbox]
      omega
  · cases step
    exact ending _
  · split at step
    · cases step
      exact ending _
    · exact pays_keepPart? step

theorem pays_stepAwaitingHead {connection next : Connection} {request : UpgradeRequest}
    {deadline : Nat} {reader : Http.HeadReader}
    (waiting : connection.phase = .awaitingHead request deadline reader)
    (step : connection.stepAwaitingHead request deadline reader = some next) :
    Pays next connection := by
  have failing : ∀ (before : Connection) (error : Error),
      Pays (before.failUpgrade error) connection :=
    fun _ _ => pays_of_ended rfl (by rw [waiting]; exact Nat.succ_pos 3)
  have shorter := reader.length_read_lt connection.stream.inbox
  unfold stepAwaitingHead at step
  split at step
  · cases step
    exact failing _ _
  · split at step
    · split at step
      · cases step
        exact failing _ _
      · cases step
        exact failing _ _
      · split at step
        · cases step
          exact failing _ _
        · cases step
    · next nonempty =>
      have shorter := shorter (by simpa using nonempty)
      split at step
      · next after unread read =>
        rw [read] at shorter
        dsimp only at shorter
        cases step
        refine .inr ⟨by rw [waiting]; rfl, ?_⟩
        simp only [price, waiting, Phase.price, withInbox, Decoder.backlog]
        omega
      · cases step
        exact failing _ _
      · cases step
        exact failing _ _
      · cases step
        exact failing _ _
      · split at step
        · cases step
          exact failing _ _
        · cases step
          exact .of_rank (by rw [waiting]; exact Nat.lt_succ_self 3)

theorem pays_advance? {connection next : Connection} (step : connection.advance? = some next) :
    Pays next connection := by
  unfold advance? at step
  split at step
  · next dialing =>
    unfold stepDialing at step
    refine .of_rank ?_
    rw [dialing]
    repeat' split at step
    all_goals cases step
    all_goals simp [Phase.rank, startUpgrade]
  · next securing =>
    unfold stepSecuring at step
    refine .of_rank ?_
    rw [securing]
    split at step
    · cases step
      simp [Phase.rank]
    · obtain ⟨result, -, rfl⟩ := Option.map_eq_some_iff.mp step
      cases result <;> simp [Phase.rank, startUpgrade]
  · next requesting =>
    unfold stepRequesting at step
    refine .of_rank ?_
    rw [requesting]
    dsimp only at step
    generalize UpgradeRequest.compose .. = composed at step
    cases composed
    all_goals repeat' split at step
    all_goals cases step
    all_goals simp [Phase.rank]
  · next waiting => exact pays_stepAwaitingHead waiting step
  · next running => exact pays_stepConnected running step
  · next writing => exact pays_stepWriting writing step
  · next waiting => exact pays_stepAwaitingClose waiting step
  · cases step

/-- Every step leaves less to do. -/
theorem step?_pays {connection next : Connection} (step : connection.step? = some next) :
    Pays next connection := by
  unfold step? at step
  split at step
  · next advanced =>
    cases step
    exact pays_advance? advanced
  · split at step
    · next able =>
      cases step
      refine .inr ⟨rfl, ?_⟩
      simp only [Callers.canRun, Bool.or_eq_true, Bool.and_eq_true, Bool.not_eq_true',
        decide_eq_true_eq, List.isEmpty_eq_false_iff] at able
      have room : connection.callers.waiting ≠ [] → 0 < connection.callers.waiting.length :=
        List.length_pos_iff.mpr
      simp only [price, Callers.price, Callers.run, List.length_append, List.length_take,
        List.length_drop]
      rcases able with noticing | ⟨nonempty, space⟩
      · omega
      · have := room nonempty
        omega
    · cases step

/-! ## Runs -/

/-- Goes on until nothing is left to do. -/
def run (connection : Connection) : Connection :=
  match _step : connection.step? with
  | none => connection
  | some next => next.run
termination_by (connection.phase.rank, connection.price)
decreasing_by
  rcases step?_pays _step with later | ⟨same, cheaper⟩
  · exact Prod.Lex.left _ _ later
  · rw [same]
    exact Prod.Lex.right _ cheaper

/-- After a run nothing is left to do. -/
theorem step?_run (connection : Connection) : connection.run.step? = none := by
  fun_induction run connection with
  | case1 connection idle => exact idle
  | case2 connection next step ih => exact ih

end Connection

end WebSocket
