import WebSocket.Proofs.Fragments

/-! # Messages that have become too large

The payload that takes an open message to the limit is refused, but it is kept, and the message
stays open. Assembly is full from then on (`Overflows`): it never gives a data message again, while
control frames still pass (`pushEach_of_overflows`). Until then it holds less than the limit, and
nothing while no message is open. A frame that is refused for its place leaves no trace
(`push_of_misplaced`).
-/

namespace WebSocket

namespace Assembly

variable {assembly : Assembly} {frame : Frame}

/-! ## Frames in the wrong place -/

/-- A frame is in the wrong place when it begins a message inside another one, or goes on with
none. -/
def IsMisplacement (violation : Violation) : Prop :=
  violation = .messageInsideMessage ∨ violation = .strayContinuation

/-- A frame that is refused for its place leaves assembly as it is. -/
theorem push_of_misplaced (sound : assembly.Sound) {violation : Violation}
    (misplaced : IsMisplacement violation) (refused : (assembly.push frame).1 = .error violation) :
    (assembly.push frame).2 = assembly := by
  have rules := pushes sound frame
  rw [refused] at rules
  generalize (assembly.push frame).2.open? = left at rules
  cases rules with
  | interrupts data opens =>
    obtain ⟨opener, -⟩ := Prod.mk.inj (eq_of_open opens)
    rw [push_of_data data, opener, Option.isSome_some, if_pos rfl]
  | strays continues closed =>
    simp only [push, continues, opener_eq_none closed]
  | beginsTooLarge | growsTooLarge => rcases misplaced with same | same <;> cases same

/-! ## What assembly has room for -/

/-- Whether the message that is open has reached the limit. -/
def Overflows (assembly : Assembly) : Prop :=
  ∃ opened ∈ assembly.open?, assembly.limit ≤ opened.2.length

theorem not_overflows_empty (limit : Nat) : ¬ (empty limit).Overflows := nofun

/-- As long as no message has reached the limit, all that is held is below it. -/
theorem Sound.length_collected_lt (sound : assembly.Sound) (room : ¬ assembly.Overflows)
    (positive : 0 < assembly.limit) : assembly.collected.length < assembly.limit := by
  cases opens : assembly.opener with
  | none =>
    rw [sound.collected_eq_nil opens]
    exact positive
  | some opcode =>
    by_contra full
    exact room ⟨_, open?_eq_some opens, Nat.le_of_not_lt full⟩

/-- A message reaches the limit exactly with a frame that is refused as too large. -/
theorem Sound.overflows_push_iff (sound : assembly.Sound) (room : ¬ assembly.Overflows)
    (frame : Frame) :
    (assembly.push frame).2.Overflows ↔ (assembly.push frame).1 = .error .tooLarge := by
  rw [Overflows, (sound_push sound frame).2]
  have rules := pushes sound frame
  generalize (assembly.push frame).1 = outcome at rules ⊢
  generalize (assembly.push frame).2.open? = left at rules ⊢
  cases rules with
  | passes => exact iff_of_false room nofun
  | interrupts _ opens => exact iff_of_false (opens ▸ room) nofun
  | whole | strays | completes => exact iff_of_false nofun nofun
  | begins _ _ _ fits | goesOn _ _ _ fits =>
    refine iff_of_false ?_ nofun
    rintro ⟨_, ⟨⟩, full⟩
    exact Nat.not_lt.mpr full fits
  | beginsTooLarge _ _ _ full | growsTooLarge _ _ full => exact iff_of_true ⟨_, rfl, full⟩ rfl

/-! ## Full assembly -/

/-- What a frame gives while a message is open that has reached the limit. -/
def whenFull (frame : Frame) : Except Violation (Option Frame) :=
  match frame.opcode with
  | .text | .binary => .error .messageInsideMessage
  | .continuation => .error .tooLarge
  | .close | .ping | .pong => .ok (some frame)

theorem isControl_of_whenFull {frame message : Frame}
    (given : whenFull frame = .ok (some message)) :
    message = frame ∧ frame.opcode.isControl = true := by
  unfold whenFull at given
  cases opcode : frame.opcode with
  | text | binary | continuation =>
    rw [opcode] at given
    cases given
  | close | ping | pong =>
    rw [opcode] at given
    cases given
    exact ⟨rfl, rfl⟩

/-- Full assembly refuses every data frame and stays full: a message cannot begin inside the one
that is open, and whatever goes on with that one makes it larger still. -/
theorem push_of_overflows (full : assembly.Overflows) (frame : Frame) :
    (assembly.push frame).1 = whenFull frame ∧ (assembly.push frame).2.Overflows := by
  obtain ⟨⟨opcode, bytes⟩, opens, large⟩ := full
  obtain ⟨opener, rfl⟩ := Prod.mk.inj (eq_of_open opens)
  cases kind : frame.opcode with
  | text | binary =>
    have data : frame.opcode = .text ∨ frame.opcode = .binary := by simp [kind]
    rw [push_of_data data, opener, Option.isSome_some, if_pos rfl]
    exact ⟨by simp only [whenFull, kind], _, opens, large⟩
  | continuation =>
    have larger : assembly.limit ≤ (assembly.collected ++ frame.payload).length := by
      rw [List.length_append]
      exact Nat.le_trans large (Nat.le_add_right _ _)
    simp only [push, whenFull, kind, opener, collect_of_le larger, true_and]
    exact ⟨_, open?_extend opener frame.payload, larger⟩
  | close | ping | pong =>
    have control : frame.opcode.isControl = true := by rw [kind]; rfl
    rw [push_of_control control]
    exact ⟨by simp only [whenFull, kind], _, opens, large⟩

theorem pushEach_of_overflows (full : assembly.Overflows) (frames : List Frame) :
    (assembly.pushEach frames).1 = frames.map whenFull ∧
      (assembly.pushEach frames).2.Overflows := by
  induction frames generalizing assembly with
  | nil => exact ⟨rfl, full⟩
  | cons frame frames ih =>
    obtain ⟨outcome, still⟩ := push_of_overflows full frame
    obtain ⟨outcomes, last⟩ := ih still
    rw [pushEach_cons, outcome, outcomes]
    exact ⟨rfl, last⟩

/-- Assembly is full exactly when a frame was refused as too large. -/
theorem Sound.overflows_pushEach_iff (sound : assembly.Sound) (room : ¬ assembly.Overflows)
    (frames : List Frame) :
    (assembly.pushEach frames).2.Overflows ↔ .error .tooLarge ∈ (assembly.pushEach frames).1 := by
  induction frames generalizing assembly with
  | nil => exact iff_of_false room List.not_mem_nil
  | cons frame frames ih =>
    have reaches := sound.overflows_push_iff room frame
    rw [pushEach_cons, List.mem_cons]
    by_cases full : (assembly.push frame).2.Overflows
    · exact iff_of_true (pushEach_of_overflows full frames).2 (.inl (reaches.mp full).symm)
    · have fits : ¬ .error .tooLarge = (assembly.push frame).1 := fun refused =>
        full (reaches.mpr refused.symm)
      rw [ih (sound_push sound frame).1 full, or_iff_right fits]

/-- What assembly holds after any frames. Nothing is held while no message is open, and less than
the limit as long as no frame was refused as too large. A frame that is refused for its place might
as well not have come. Once a frame was refused as too large, every later data frame is refused, so
that nothing but control frames comes out, each of them as it went in. -/
theorem pushEach_invariant {limit : Nat} (positive : 0 < limit) (frames : List Frame) :
    let outcomes := ((empty limit).pushEach frames).1
    let assembly := ((empty limit).pushEach frames).2
    (assembly.opener = none → assembly.collected = []) ∧
    (.error .tooLarge ∉ outcomes → assembly.collected.length < limit) ∧
    (∀ frame violation, IsMisplacement violation → (assembly.push frame).1 = .error violation →
      (assembly.push frame).2 = assembly ∧ ∀ later, assembly.pushEach (frame :: later) =
        (.error violation :: (assembly.pushEach later).1, (assembly.pushEach later).2)) ∧
    (.error .tooLarge ∈ outcomes → ∀ later,
      (assembly.pushEach later).1 = later.map whenFull ∧
      ∀ message, .ok (some message) ∈ (assembly.pushEach later).1 →
        message ∈ later ∧ message.opcode.isControl = true) := by
  intro outcomes assembly
  obtain ⟨sound, same⟩ := sound_pushEach (sound_empty limit) frames
  have overflows := (sound_empty limit).overflows_pushEach_iff (not_overflows_empty limit) frames
  refine ⟨sound.collected_eq_nil, fun never => ?_, fun frame violation misplaced refused => ?_,
    fun refused later => ?_⟩
  · have size := sound.length_collected_lt (mt overflows.mp never) (same.symm ▸ positive)
    rwa [same] at size
  · have unchanged := push_of_misplaced sound misplaced refused
    refine ⟨unchanged, fun later => ?_⟩
    rw [pushEach_cons, refused, unchanged]
  · obtain ⟨given, -⟩ := pushEach_of_overflows (overflows.mpr refused) later
    refine ⟨given, fun message member => ?_⟩
    rw [given] at member
    obtain ⟨frame, inLater, passes⟩ := List.mem_map.mp member
    obtain ⟨rfl, control⟩ := isControl_of_whenFull passes
    exact ⟨inLater, control⟩

/-- A text that comes inside a message leaves no trace. The continuation that takes the message to
its limit does, and the last fragment does not give the message any more. -/
theorem pushEach_invariant_of_full_text :
    let begun := (empty 4).pushEach [.fragment .text .first [1, 2]]
    let full := (empty 4).pushEach
      [.fragment .text .first [1, 2], .text [9], .fragment .continuation .none [3, 4]]
    0 < 4 ∧
    (.error .tooLarge ∉ begun.1 ∧ begun.2.collected.length < 4) ∧
    ((begun.2.push (.text [9])).1 = .error .messageInsideMessage ∧
      (begun.2.push (.text [9])).2 = begun.2) ∧
    .error .tooLarge ∈ full.1 ∧
      (full.2.pushEach [.ping [7], .fragment .continuation .last [5], .text [6]]).1 =
        [.ok (some (.ping [7])), .error .tooLarge, .error .messageInsideMessage] := by
  intro begun full
  have positive : 0 < 4 := by decide
  have never : .error .tooLarge ∉ begun.1 := by decide
  have interrupts : (begun.2.push (.text [9])).1 = .error .messageInsideMessage := by decide
  have refused : .error .tooLarge ∈ full.1 := by decide
  obtain ⟨-, room, misplaced, -⟩ :=
    pushEach_invariant positive [.fragment .text .first [1, 2]]
  obtain ⟨-, -, -, stays⟩ := pushEach_invariant positive
    [.fragment .text .first [1, 2], .text [9], .fragment .continuation .none [3, 4]]
  exact ⟨positive, ⟨never, room never⟩,
    ⟨interrupts, (misplaced (.text [9]) _ (.inl rfl) interrupts).1⟩, refused, (stays refused _).1⟩

end Assembly

end WebSocket
