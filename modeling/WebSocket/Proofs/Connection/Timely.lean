import WebSocket.Proofs.Connection.Runs

/-! # Timely runs

Runs in which time passes only while the connection has nothing left to do, and in which all that
follows from it is done before anything else happens. All sessions are among them
(`timely_playAll`).
-/

namespace WebSocket

/-! ## Time -/

/-- How much time an input lets pass. -/
def Connection.Input.time : Connection.Input → Nat
  | .advance time => time
  | _ => 0

namespace Connection

variable {connection next : Connection} {inputs : List Input}

/-- How much time inputs let pass. -/
def elapsed : List Input → Nat
  | [] => 0
  | input :: later => input.time + elapsed later

theorem elapsed_append (inputs more : List Input) :
    elapsed (inputs ++ more) = elapsed inputs + elapsed more := by
  induction inputs with
  | nil => exact (Nat.zero_add _).symm
  | cons input later ih =>
    change input.time + elapsed (later ++ more) = input.time + elapsed later + elapsed more
    omega

theorem now_apply (connection : Connection) (input : Input) :
    (connection.apply input).now = connection.now + input.time := by
  cases input with
  | socket outcome | secure outcome =>
    dsimp only [apply]
    split <;> rfl
  | _ => rfl

theorem Reaches.now_eq {start : Connection} (reaches : Reaches start inputs connection) :
    connection.now = start.now + elapsed inputs := by
  induction reaches with
  | start => rfl
  | step reaches step ih =>
    obtain ⟨items, advances⟩ := advances_of_step? step
    exact (congrArg Surroundings.now advances.surroundings_eq).trans ih
  | apply reaches input ih =>
    rw [now_apply, ih, elapsed_append, Nat.add_assoc]
    rfl

/-- Runs in which time passes only while nothing is left to do, and in which all that follows from
it is done before anything else happens. -/
inductive Timely (start : Connection) : List Input → Connection → Prop where
  | start : Timely start [] start
  | step {inputs : List Input} {connection next : Connection}
      (timely : Timely start inputs connection) (step : connection.step? = some next) :
      Timely start inputs next
  | apply {inputs : List Input} {connection : Connection}
      (timely : Timely start inputs connection) (input : Input) (timeless : input.time = 0) :
      Timely start (inputs ++ [input]) (connection.apply input)
  | wait {inputs : List Input} {connection : Connection}
      (timely : Timely start inputs connection) (idle : connection.step? = none) (time : Nat) :
      Timely start (inputs ++ [.advance time]) (connection.apply (.advance time)).run

namespace Timely

variable {start : Connection}

theorem reaches (timely : Timely start inputs connection) : Reaches start inputs connection := by
  induction timely with
  | start => exact .start
  | step timely step ih => exact ih.step step
  | apply timely input timeless ih => exact ih.apply input
  | wait timely idle time ih => exact (ih.apply _).run

theorem run (timely : Timely start inputs connection) : Timely start inputs connection.run := by
  fun_induction Connection.run connection with
  | case1 => exact timely
  | case2 connection next step ih => exact ih (timely.step step)

theorem foldl_apply (timely : Timely start inputs connection) (more : List Input)
    (timeless : ∀ input ∈ more, input.time = 0) :
    Timely start (inputs ++ more) (more.foldl Connection.apply connection) := by
  induction more generalizing inputs connection with
  | nil => rwa [List.append_nil]
  | cons input more ih =>
    obtain ⟨first, rest⟩ := List.forall_mem_cons.mp timeless
    rw [List.append_cons]
    exact ih (timely.apply input first) rest

theorem stepUpTo (timely : Timely start inputs connection) (count : Nat) :
    Timely start inputs (connection.stepUpTo count) := by
  induction count generalizing connection with
  | zero => exact timely
  | succ count ih =>
    refine ih ?_
    cases step : connection.step? with
    | none => exact timely
    | some next => exact timely.step step

/-- The groups of a session: either time passes and nothing else happens, or no time passes. -/
theorem foldl_play (timely : Timely start inputs connection) (idle : connection.step? = none)
    (script : List (List Input))
    (groups : ∀ group ∈ script,
      (∃ time, group = [.advance time]) ∨ ∀ input ∈ group, input.time = 0) :
    Timely start (inputs ++ script.flatten) (connection.playAll script) := by
  induction script generalizing inputs connection with
  | nil => rwa [List.flatten_nil, List.append_nil]
  | cons group script ih =>
    obtain ⟨first, rest⟩ := List.forall_mem_cons.mp groups
    rw [List.flatten_cons, ← List.append_assoc]
    refine ih ?_ (step?_run _) rest
    rcases first with ⟨time, rfl⟩ | timeless
    · exact timely.wait idle time
    · exact (timely.foldl_apply group timeless).run

end Timely

/-- Sessions are timely: a beginning without time, and then groups of inputs in which time passes
alone. -/
theorem timely_playAll (start : Connection) (before : List Input)
    (timeless : ∀ input ∈ before, input.time = 0) (script : List (List Input))
    (groups : ∀ group ∈ script,
      (∃ time, group = [.advance time]) ∨ ∀ input ∈ group, input.time = 0) :
    Timely start (before ++ script.flatten) ((start.play before).playAll script) :=
  (Timely.start.foldl_apply before timeless).run.foldl_play (step?_run _) script groups

/-! ## Having nothing to do -/

theorem run_of_idle (idle : connection.step? = none) : connection.run = connection := by
  unfold Connection.run
  split
  · rfl
  · next step =>
    rw [idle] at step
    cases step

theorem run_of_step (step : connection.step? = some next) : connection.run = next.run := by
  rw [Connection.run]
  split
  · next idle =>
    rw [idle] at step
    cases step
  · next same =>
    rw [same] at step
    cases step
    rfl

/-- The steps at the beginning of a run do not change where it ends. -/
theorem run_stepUpTo (connection : Connection) (count : Nat) :
    (connection.stepUpTo count).run = connection.run := by
  induction count generalizing connection with
  | zero => rfl
  | succ count ih =>
    rw [Connection.stepUpTo, ih]
    cases step : connection.step? with
    | none => rfl
    | some next => exact (run_of_step step).symm

/-- A connection that has nothing left to do cannot go on by itself, and nor can its users. -/
theorem stuck_of_idle (idle : connection.step? = none) :
    connection.advance? = none ∧ connection.callers.canRun = false := by
  unfold step? at idle
  split at idle
  · cases idle
  · next stuck =>
    split at idle
    · cases idle
    · next unable => exact ⟨stuck, by simpa using unable⟩

/-- After the end only the users still do anything. -/
theorem eq_of_step_ended (ended : connection.phase = .ended) (step : connection.step? = some next) :
    next = { connection with callers := connection.callers.run } := by
  have stuck : connection.advance? = none := by
    rw [advance?, ended]
  rw [step?, stuck] at step
  dsimp only at step
  split at step
  · exact (Option.some.inj step).symm
  · cases step

end Connection

end WebSocket
