import WebSocket.Proofs.Connection.Runs
import WebSocket.Proofs.Http.HeadSearch
import WebSocket.Proofs.Http.Reading

/-! # The response head of a connection finds room

A head that has more names than headers can hold has a line for each of them, so it is longer than
all that a connection takes before it decides about the head (`HeadReader.Bounded`). So the program
never stops at the head of a connection (`Reaches.read_ne_overflow`).
-/

namespace WebSocket

namespace Http

theorem FieldLine.four_le_length_bytes (line : FieldLine) : 4 ≤ line.bytes.length := by
  have named := List.length_pos_iff.mpr line.name_nonempty
  simp only [bytes, crlf, List.length_append, List.length_cons, List.length_nil]
  omega

theorem four_mul_length_le (lines : List FieldLine) :
    4 * lines.length ≤ (lines.flatMap FieldLine.bytes).length := by
  induction lines with
  | nil => exact Nat.le_refl _
  | cons line lines ih =>
    have first := line.four_le_length_bytes
    rw [List.flatMap_cons, List.length_append, List.length_cons]
    omega

theorem length_of_parse_overflow {bytes : Bytes}
    (overflow : ResponseHead.parse bytes = .error .overflow) :
    4 * Headers.capacity ≤ bytes.length := by
  obtain ⟨text, ⟨early, ⟨later, whole⟩, -, noRoom⟩, rfl⟩ := parse_overflow_iff.mp overflow
  have many : Headers.capacity < early.length :=
    Nat.lt_of_not_le (mt haveRoom_of_length_le noRoom)
  have lines := four_mul_length_le text.lines
  rw [← whole, List.length_append] at lines
  simp only [HeadText.bytes, List.length_append, whole] at lines ⊢
  omega

theorem HeadScan.parse_of_ofHead {head rest : Bytes} (overflow : ofHead head rest = .overflow) :
    ResponseHead.parse head = .error .overflow := by
  unfold ofHead at overflow
  split at overflow
  · cases overflow
  · cases overflow
  · assumption

namespace HeadReader

variable {reader after : HeadReader} {bytes unread : Bytes}

/-- A reader that has not decided holds no more than a head may have. -/
structure Bounded (reader : HeadReader) : Prop where
  buffer : reader.buffer.length ≤ maxHead
  capacity : reader.capacity ≤ 2 * maxHead

theorem bounded_empty : ({} : HeadReader).Bounded := ⟨by decide, by decide⟩

theorem Bounded.nextCapacity (bounded : reader.Bounded) : reader.nextCapacity ≤ 2 * maxHead := by
  have small := bounded.buffer
  have least : 1024 ≤ 2 * maxHead := by decide
  unfold HeadReader.nextCapacity
  split
  · exact bounded.capacity
  · omega

theorem Bounded.read_incomplete (bounded : reader.Bounded) {scanner : HeadScanner}
    (read : reader.read bytes = (.incomplete scanner, after, unread)) : after.Bounded := by
  simp only [HeadReader.read, Prod.mk.injEq] at read
  obtain ⟨found, rfl, -⟩ := read
  refine ⟨?_, bounded.nextCapacity⟩
  unfold HeadScanner.scan at found
  dsimp only at found
  split at found
  · exact absurd found (HeadScan.ofHead_ne_incomplete _ _ _)
  · split at found
    · cases found
    · next small => exact Nat.le_of_not_lt small

/-- What a reader takes is too short for a head that stops the program. -/
theorem Bounded.read_ne_overflow (bounded : reader.Bounded) (bytes : Bytes) :
    (reader.read bytes).1 ≠ .overflow := by
  intro overflow
  have room := bounded.nextCapacity
  have inside := reader.length_lt_nextCapacity
  simp only [HeadReader.read, HeadScanner.scan, List.splitAt_eq] at overflow
  split at overflow
  · have long := length_of_parse_overflow (HeadScan.parse_of_ofHead overflow)
    have enough : 2 * maxHead < 4 * Headers.capacity := by decide
    rw [List.length_take, List.length_append, List.length_take] at long
    omega
  · split at overflow <;> cases overflow

end HeadReader

end Http

namespace Connection

variable {connection next : Connection} {items : List StreamItem}

/-- A connection whose reader, while it reads the head, holds no more than a head may have. -/
def HoldsBounded (connection : Connection) : Prop :=
  ∀ request deadline reader, connection.phase = .awaitingHead request deadline reader →
    reader.Bounded

theorem HoldsBounded.step (bounded : connection.HoldsBounded)
    (advances : connection.Advances items next) : next.HoldsBounded := by
  intro request deadline reader waiting
  cases advances with
  | requests =>
    cases waiting
    exact Http.HeadReader.bounded_empty
  | readsHead before _ _ read =>
    cases waiting
    exact (bounded _ _ _ before).read_incomplete read
  | usersRun | collects | hearsPong | receives | keepsPart | dropsFrame =>
    exact bounded _ _ _ waiting
  | @writes job | @failsToWrite job =>
    cases job with
    | close reason id => cases id <;> cases waiting
    | _ => cases waiting
  | _ => cases waiting

theorem HoldsBounded.apply (bounded : connection.HoldsBounded) (input : Input) :
    (connection.apply input).HoldsBounded := by
  intro request deadline reader waiting
  have learns := learns_apply connection input
  rw [waiting] at learns
  generalize before : connection.phase = phase at learns
  cases learns with
  | nothing => exact bounded _ _ _ before

/-- A connection that begins before the head never has the program stop at it, whatever comes. -/
theorem Reaches.read_ne_overflow {start : Connection} {inputs : List Input}
    (early : ∀ request deadline reader, start.phase ≠ .awaitingHead request deadline reader)
    (reaches : Reaches start inputs connection) {request : UpgradeRequest} {deadline : Nat}
    {reader : Http.HeadReader}
    (waiting : connection.phase = .awaitingHead request deadline reader) :
    (reader.read connection.stream.inbox).1 ≠ .overflow := by
  have bounded : connection.HoldsBounded := by
    clear waiting
    induction reaches with
    | start => exact fun request deadline reader phase => absurd phase (early _ _ _)
    | step _ step ih =>
      obtain ⟨items, advances⟩ := advances_of_step? step
      exact ih.step advances
    | apply _ input ih => exact ih.apply input
  exact (bounded _ _ _ waiting).read_ne_overflow _

end Connection

end WebSocket
