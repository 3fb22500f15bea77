import WebSocket.Proofs.Connection.Guise
import WebSocket.Proofs.Connection.Lifecycle

/-! # Calls that are answered at once leave no trace

Calls are numbered, and every number in use is lower than the next one (`Reaches.numbered`). A call
that is refused, or asks for nothing to be done, uses up a number and adds an answer, which puts the
connection in a guise (`apply_call_of_answered`). The session goes on as it would without the call,
except that later calls have numbers higher by one and that there is one more answer
(`seen_playAll_of_answered`).
-/

namespace WebSocket

/-! ## One more call -/

/-- The number of a call when there is one more, whose number is `id`. -/
def shifted (id number : Nat) : Nat :=
  if number < id then number else number + 1

theorem shifted_of_lt {id number : Nat} (lower : number < id) : shifted id number = number :=
  if_pos lower

theorem shifted_of_le {id number : Nat} (higher : id ≤ number) : shifted id number = number + 1 :=
  if_neg (Nat.not_lt.mpr higher)

/-- An answer when there is one more call, whose number is `id`. -/
def Answer.shifted (id : Nat) (answer : Answer) : Answer :=
  { answer with id := WebSocket.shifted id answer.id }

/-- Answers when there is one more, which came after so many others. -/
def withAnswer (answer : Answer) (position : Nat) (answers : Array Answer) : Array Answer :=
  ((answers.toList.map (·.shifted answer.id)).insertIdx position answer).toArray

theorem insertIdx_append_length {α : Type} (front back : List α) (item : α) :
    (front ++ back).insertIdx front.length item = front ++ item :: back := by
  induction front with
  | nil => rfl
  | cons first front ih =>
    rw [List.cons_append, List.length_cons, List.insertIdx_succ_cons, ih, List.cons_append]

theorem withAnswer_append (answer : Answer) (answers more : Array Answer) :
    withAnswer answer answers.size (answers ++ more) =
      answers.map (·.shifted answer.id) ++ #[answer] ++ more.map (·.shifted answer.id) := by
  have inserted := insertIdx_append_length (answers.toList.map (·.shifted answer.id))
    (more.toList.map (·.shifted answer.id)) answer
  rw [List.length_map, Array.length_toList] at inserted
  rw [withAnswer, Array.toList_append, List.map_append, inserted]
  simp

theorem withAnswer_size (answer : Answer) (answers : Array Answer) :
    withAnswer answer answers.size answers =
      answers.map (·.shifted answer.id) ++ #[answer] := by
  simpa using withAnswer_append answer answers #[]

/-- The answer to a call bears its number. -/
theorem MadeCall.id_of_answer? (made : MadeCall) {id : Nat} {answer : Answer}
    (answered : made.answer? id = some answer) : answer.id = id := by
  rcases made.order?_or_answer? id with ⟨order, -, none⟩ | ⟨error, -, some⟩
  · rw [none] at answered
    cases answered
  · rw [some] at answered
    cases answered
    rfl

/-- A call is answered at once when it meets a connection that is not connected, when it is refused
whatever the connection does, and when it asks for nothing to be done. -/
theorem MadeCall.exists_answer? {made : MadeCall} (id : Nat)
    (rejected : made.connected = false ∨ made.call.misuse?.isSome = true ∨
      made.call.order = .send []) : ∃ answer, made.answer? id = some answer := by
  rcases made.order?_or_answer? id with ⟨order, placed, -⟩ | ⟨error, -, answered⟩
  · obtain ⟨fine, connected, something, -⟩ := order?_eq_some_iff.mp placed
    rcases rejected with closed | misused | nothing
    · rw [connected] at closed
      cases closed
    · rw [fine] at misused
      cases misused
    · exact absurd nothing something
  · exact ⟨_, answered⟩

theorem Callers.call_of_answer? {callers : Callers} {call : Call} {connected : Bool}
    {answer : Answer}
    (atOnce : (⟨call, connected⟩ : MadeCall).answer? callers.nextId = some answer) :
    callers.call call connected =
      { callers with nextId := callers.nextId + 1, answers := callers.answers.push answer } := by
  unfold MadeCall.answer? at atOnce
  unfold Callers.call
  dsimp only at atOnce ⊢
  split at atOnce
  · cases atOnce
  · next nothing =>
    cases atOnce
    rw [nothing]
  · next refused =>
    cases atOnce
    rw [refused]

namespace Guise

/-- The guise of a connection after one more call, which got its answer after so many others. -/
def answered (answer : Answer) (position : Nat) : Guise where
  number := shifted answer.id
  answers := withAnswer answer position
  held_false := rfl
  items_emit _ _ _ := rfl

theorem suits_answered {callers : Callers} {answer : Answer} (next : answer.id = callers.nextId) :
    (answered answer callers.answers.size).Suits callers where
  used := rfl
  number count := by
    change shifted answer.id _ = shifted answer.id _ + count
    rw [next, shifted_of_le (Nat.le_add_right ..), shifted_of_le (Nat.le_refl _)]
    omega
  answers more := by
    change withAnswer answer _ _ = withAnswer answer _ _ ++ _
    rw [withAnswer_append, withAnswer_size]
    rfl

end Guise

namespace Connection

open Guise (answered)

variable {connection next start : Connection} {items : List StreamItem} {inputs : List Input}

/-! ## Numbers in use -/

/-- The numbers in use are lower than the next one. -/
structure Numbered (connection : Connection) : Prop where
  outstanding : ∀ command ∈ connection.outstanding, command.id < connection.callers.nextId
  answers : ∀ answer ∈ connection.callers.answers.toList, answer.id < connection.callers.nextId

theorem Numbered.step (numbered : connection.Numbered) (advances : connection.Advances items next) :
    next.Numbered := by
  obtain ⟨dropped, balances⟩ := advances.balances
  have orders := numbered.outstanding
  rw [balances.outstanding] at orders
  simp only [List.forall_mem_append] at orders
  obtain ⟨⟨done, left⟩, lost⟩ := orders
  constructor
  · rw [balances.nextId]
    exact left
  · rw [balances.answers, balances.nextId]
    simp only [List.forall_mem_append]
    refine ⟨⟨numbered.answers, fun answer given => ?_⟩, fun answer given => ?_⟩
    · have member := List.mem_map_of_mem (f := Answer.id) given
      rw [Attempt.map_id_answer?] at member
      obtain ⟨command, carriedOut, same⟩ := List.mem_map.mp member
      exact same ▸ done command carriedOut
    · obtain ⟨command, unmet, rfl⟩ := List.mem_map.mp given
      exact lost command unmet

theorem Numbered.apply (numbered : connection.Numbered) (input : Input) :
    (connection.apply input).Numbered := by
  have adds := adds_apply connection input
  constructor
  · rw [adds.outstanding, adds.nextId]
    refine List.forall_mem_append.mpr ⟨fun command member => ?_, fun command member => ?_⟩
    · exact Nat.lt_add_right _ (numbered.outstanding command member)
    · cases makes : connection.made? input with
      | none => simp [makes] at member
      | some made =>
        rw [makes, Option.bind_some, Option.mem_toList] at member
        obtain ⟨-, -, -, rfl⟩ := MadeCall.order?_eq_some_iff.mp member
        exact Nat.lt_succ_self _
  · rw [adds.answers, adds.nextId]
    refine List.forall_mem_append.mpr ⟨fun answer member => ?_, fun answer member => ?_⟩
    · exact Nat.lt_add_right _ (numbered.answers answer member)
    · cases makes : connection.made? input with
      | none => simp [makes] at member
      | some made =>
        rw [makes, Option.bind_some, Option.mem_toList] at member
        rw [made.id_of_answer? member]
        exact Nat.lt_succ_self _

theorem Begins.numbered (begins : Begins start) : start.Numbered := by
  cases begins with
  | attached => constructor <;> exact nofun
  | dialed dialed =>
    obtain ⟨secure, rfl⟩ := exists_dialing dialed
    constructor <;> exact nofun

/-- Whatever happens, the numbers in use are lower than the next one. -/
theorem Reaches.numbered (begins : Begins start) (reaches : Reaches start inputs connection) :
    connection.Numbered := by
  induction reaches with
  | start => exact begins.numbered
  | step reaches step ih =>
    obtain ⟨items, advances⟩ := advances_of_step? step
    exact ih.step advances
  | apply reaches input ih => exact ih.apply input

/-! ## Calls that are answered at once -/

theorem outstanding_fixed (numbered : connection.Numbered) {answer : Answer}
    (next : answer.id = connection.callers.nextId) (position : Nat) :
    ∀ command ∈ connection.outstanding, (answered answer position).command command = command := by
  intro command member
  have lower := numbered.outstanding command member
  rw [← next] at lower
  change { command with id := shifted answer.id command.id } = command
  rw [shifted_of_lt lower]

/-- A call that is answered at once puts the connection in a guise. -/
theorem apply_call_of_answered (numbered : connection.Numbered) {call : Call} {answer : Answer}
    (atOnce : (⟨call, connection.isConnected⟩ : MadeCall).answer? connection.callers.nextId =
      some answer) :
    connection.apply (.call call) =
      connection.wear (answered answer connection.callers.answers.size) := by
  have next := MadeCall.id_of_answer? _ atOnce
  -- Numbers in use are lower than that of the call, so the guise changes none of them.
  have earlier :
      connection.callers.answers.map (·.shifted answer.id) = connection.callers.answers := by
    rw [← Array.toList_inj, Array.toList_map]
    refine (List.map_congr_left fun given member => ?_).trans (List.map_id _)
    rw [Answer.shifted, shifted_of_lt (next ▸ numbered.answers given member)]
    rfl
  have answers : withAnswer answer connection.callers.answers.size connection.callers.answers =
      connection.callers.answers.push answer := by
    rw [withAnswer_size, earlier, Array.push_eq_append]
  have number : shifted answer.id connection.callers.nextId = connection.callers.nextId + 1 :=
    shifted_of_le (Nat.le_of_eq next)
  rw [wear_of_fixed (outstanding_fixed numbered next _), apply, Callers.call_of_answer? atOnce,
    ← number, ← answers]
  rfl

/-- What is seen when there is one more call, which got its answer after so many others. -/
def Seen.withAnswer (seen : Seen) (answer : Answer) (position : Nat) : Seen :=
  { seen with
    pending := seen.pending.map (shifted answer.id)
    answers := WebSocket.withAnswer answer position seen.answers }

/-- From the moment of a call that is answered at once a session goes on as without the call. -/
theorem seen_playAll_of_answered {moment : Connection} (numbered : moment.Numbered) {call : Call}
    {answer : Answer}
    (atOnce : (⟨call, moment.isConnected⟩ : MadeCall).answer? moment.callers.nextId = some answer)
    (script : List (List Input)) :
    ((moment.apply (.call call)).playAll script).seen =
      (moment.playAll script).seen.withAnswer answer moment.callers.answers.size := by
  have suits := Guise.suits_answered (MadeCall.id_of_answer? _ atOnce)
  have keeps : ∀ group ∈ script, ∀ input ∈ group,
      input.Keeps (answered answer moment.callers.answers.size) := by
    intro group among input member
    cases input with
    | dropSender => exact rfl
    | _ => trivial
  rw [apply_call_of_answered numbered atOnce, playAll_wear suits keeps, seen_wear]
  rfl

/-- A call that is answered at once leaves no trace but its answer. However a session begins and
wherever in it the call is made, in a group with other inputs or in one of its own: events, written
frames, states, the end and all other answers are at every later time what they are without the
call, except that the numbers of later calls are higher by one. -/
theorem Begins.seen_of_rejected (begins : Begins start) (before : List (List Input))
    (early late : List Input) (after : List (List Input)) {call : Call}
    (rejected : (early.foldl apply (start.playAll before)).isConnected = false ∨
      call.misuse?.isSome = true ∨ call.order = .send []) :
    let moment := early.foldl apply (start.playAll before)
    ∃ answer, (⟨call, moment.isConnected⟩ : MadeCall).answer? moment.callers.nextId = some answer ∧
      (start.playAll (before ++ (early ++ .call call :: late) :: after)).seen =
        (start.playAll (before ++ (early ++ late) :: after)).seen.withAnswer answer
          moment.callers.answers.size ∧
      (before ≠ [] → early = [] → late = [] →
        (start.playAll (before ++ [.call call] :: after)).seen =
          (start.playAll (before ++ after)).seen.withAnswer answer
            moment.callers.answers.size) := by
  intro moment
  have numbered : moment.Numbered :=
    ((reaches_playAll start before).foldl_apply early).numbered begins
  obtain ⟨answer, atOnce⟩ :=
    @MadeCall.exists_answer? ⟨call, moment.isConnected⟩ moment.callers.nextId rejected
  have inGroup : (start.playAll (before ++ (early ++ .call call :: late) :: after)).seen =
      (start.playAll (before ++ (early ++ late) :: after)).seen.withAnswer answer
        moment.callers.answers.size := by
    rw [playAll_from start before early late, playAll_from]
    exact seen_playAll_of_answered numbered atOnce (late :: after)
  refine ⟨answer, atOnce, inGroup, ?_⟩
  rintro played rfl rfl
  rw [← playAll_skip played start after]
  exact inGroup

/-- A ping that is too long, between a text and the call that closes the connection. -/
theorem seen_of_rejected_of_long_ping :
    let before : List (List Input) := [[.arrive agreement]]
    let early : List Input := [.call (.text "a")]
    let call : Call := .ping (List.replicate 126 0)
    let late : List Input := [.call (.close "bye")]
    let after : List (List Input) := [[.arrive [0x88, 0x00]]]
    let moment := early.foldl apply (plainStart.playAll before)
    let refused : Answer := ⟨moment.callers.nextId, some (.call (.controlPayloadTooLarge 126))⟩
    Begins plainStart ∧ call.misuse?.isSome = true ∧
      (plainStart.playAll (before ++ (early ++ .call call :: late) :: after)).seen =
        (plainStart.playAll (before ++ (early ++ late) :: after)).seen.withAnswer refused
          moment.callers.answers.size := by
  intro before early call late after moment refused
  have begins : Begins plainStart := .attached ..
  have misuse : call.misuse? = some (.controlPayloadTooLarge 126) := by
    simp [call, Call.misuse?, maxControlPayload]
  have misused : call.misuse?.isSome = true := by rw [misuse]; rfl
  obtain ⟨answer, atOnce, same, -⟩ :=
    Begins.seen_of_rejected begins before early late after (.inr (.inl misused))
  have known : (⟨call, moment.isConnected⟩ : MadeCall).answer? moment.callers.nextId =
      some refused := by
    simp only [MadeCall.answer?, Call.check, misuse, refused]
  cases Option.some.inj (known.symm.trans atOnce)
  exact ⟨begins, misused, same⟩

end Connection

end WebSocket
