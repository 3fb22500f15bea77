import WebSocket.Assembly

/-! # What message assembly makes of a frame

Everything that depends on message assembly depends on the opcode and the bytes of the message that
is open (`Assembly.open?`). What a frame does to them, and what comes out, is one of few things
(`Assembly.Pushes`), as long as nothing is kept of messages that are complete (`Assembly.Sound`).
-/

namespace WebSocket

theorem OpCode.not_isControl_of_data {opcode : OpCode}
    (data : opcode = .text ∨ opcode = .binary) : opcode.isControl = false := by
  rcases data with rfl | rfl <;> rfl

namespace Assembly

variable {assembly after : Assembly} {frame message : Frame}

/-- The message that is open: its opcode and the bytes so far. -/
def open? (assembly : Assembly) : Option (OpCode × Bytes) :=
  assembly.opener.map fun opcode => (opcode, assembly.collected)

/-- Nothing is kept while no message is open, and only data messages are ever open. -/
structure Sound (assembly : Assembly) : Prop where
  closed : assembly.opener = none → assembly.parts = []
  data : ∀ opcode ∈ assembly.opener, opcode = .text ∨ opcode = .binary

theorem sound_empty (limit : Nat) : (empty limit).Sound := ⟨fun _ => rfl, nofun⟩

theorem Sound.collected_eq_nil (sound : assembly.Sound) (closed : assembly.opener = none) :
    assembly.collected = [] := by
  rw [collected, sound.closed closed]
  rfl

theorem open?_eq_none (closed : assembly.opener = none) : assembly.open? = none := by
  rw [open?, closed]
  rfl

theorem open?_eq_some {opcode : OpCode} (opens : assembly.opener = some opcode) :
    assembly.open? = some (opcode, assembly.collected) := by
  rw [open?, opens]
  rfl

theorem opener_eq_none (closed : assembly.open? = none) : assembly.opener = none :=
  Option.map_eq_none_iff.mp closed

theorem eq_of_open {opcode : OpCode} {bytes : Bytes}
    (opens : assembly.open? = some (opcode, bytes)) :
    (assembly.opener, assembly.collected) = (some opcode, bytes) := by
  obtain ⟨_, opener, same⟩ := Option.map_eq_some_iff.mp opens
  cases same
  rw [opener]

theorem open?_extend {opcode : OpCode} (opens : assembly.opener = some opcode) (payload : Bytes) :
    (assembly.extend payload).open? = some (opcode, assembly.collected ++ payload) := by
  rw [open?_eq_some (show (assembly.extend payload).opener = some opcode from opens),
    collected_extend]

/-- A payload that fits is added. -/
theorem collect_of_lt {payload : Bytes}
    (fits : (assembly.collected ++ payload).length < assembly.limit) :
    assembly.collect payload = (.ok (), assembly.extend payload) := by
  rw [← collected_extend, length_collected] at fits
  exact Prod.ext (if_pos fits) rfl

/-- A payload that is too much is refused, and kept all the same. -/
theorem collect_of_le {payload : Bytes}
    (full : assembly.limit ≤ (assembly.collected ++ payload).length) :
    assembly.collect payload = (.error .tooLarge, assembly.extend payload) := by
  rw [← collected_extend, length_collected] at full
  exact Prod.ext (if_neg (Nat.not_lt.mpr full)) rfl

theorem push_of_data (data : frame.opcode = .text ∨ frame.opcode = .binary) :
    assembly.push frame =
      if assembly.opener.isSome then (.error .messageInsideMessage, assembly)
      else if frame.fin then (.ok (some frame), assembly)
      else
        let opening : Assembly := { assembly with opener := some frame.opcode }
        let (outcome, after) := opening.collect frame.payload
        (outcome.map fun _ => none, after) := by
  rcases data with opcode | opcode <;> simp only [push, opcode]

/-- What comes out when a frame goes through assembly, and which message is open then. -/
inductive Pushes (assembly : Assembly) (frame : Frame) :
    Except Violation (Option Frame) → Option (OpCode × Bytes) → Prop where
  | passes (control : frame.opcode.isControl = true) :
      Pushes assembly frame (.ok (some frame)) assembly.open?
  | interrupts (data : frame.opcode = .text ∨ frame.opcode = .binary)
      {opened : OpCode × Bytes} (opens : assembly.open? = some opened) :
      Pushes assembly frame (.error .messageInsideMessage) (some opened)
  | whole (data : frame.opcode = .text ∨ frame.opcode = .binary)
      (closed : assembly.open? = none) (final : frame.fin = true) :
      Pushes assembly frame (.ok (some frame)) none
  | begins (data : frame.opcode = .text ∨ frame.opcode = .binary)
      (closed : assembly.open? = none) (more : frame.fin = false)
      (fits : frame.payload.length < assembly.limit) :
      Pushes assembly frame (.ok none) (some (frame.opcode, frame.payload))
  | beginsTooLarge (data : frame.opcode = .text ∨ frame.opcode = .binary)
      (closed : assembly.open? = none) (more : frame.fin = false)
      (full : assembly.limit ≤ frame.payload.length) :
      Pushes assembly frame (.error .tooLarge) (some (frame.opcode, frame.payload))
  | strays (continues : frame.opcode = .continuation) (closed : assembly.open? = none) :
      Pushes assembly frame (.error .strayContinuation) none
  | goesOn (continues : frame.opcode = .continuation) {opcode : OpCode} {bytes : Bytes}
      (opens : assembly.open? = some (opcode, bytes)) (more : frame.fin = false)
      (fits : (bytes ++ frame.payload).length < assembly.limit) :
      Pushes assembly frame (.ok none) (some (opcode, bytes ++ frame.payload))
  | completes (continues : frame.opcode = .continuation) {opcode : OpCode} {bytes : Bytes}
      (opens : assembly.open? = some (opcode, bytes))
      (data : opcode = .text ∨ opcode = .binary) (final : frame.fin = true)
      (fits : (bytes ++ frame.payload).length < assembly.limit) :
      Pushes assembly frame
        (.ok (some { frame with opcode, payload := bytes ++ frame.payload })) none
  | growsTooLarge (continues : frame.opcode = .continuation) {opcode : OpCode} {bytes : Bytes}
      (opens : assembly.open? = some (opcode, bytes))
      (full : assembly.limit ≤ (bytes ++ frame.payload).length) :
      Pushes assembly frame (.error .tooLarge) (some (opcode, bytes ++ frame.payload))

/-- A text or binary frame is a message or opens one. -/
theorem pushes_of_data (sound : assembly.Sound)
    (data : frame.opcode = .text ∨ frame.opcode = .binary) :
    assembly.Pushes frame (assembly.push frame).1 (assembly.push frame).2.open? := by
  rw [push_of_data data]
  cases opens : assembly.opener with
  | some opened =>
    rw [Option.isSome_some, if_pos rfl, open?_eq_some opens]
    exact .interrupts data (open?_eq_some opens)
  | none =>
    have closed := open?_eq_none opens
    rw [Option.isSome_none, if_neg Bool.false_ne_true]
    cases final : frame.fin with
    | true =>
      rw [if_pos rfl, closed]
      exact .whole data closed final
    | false =>
      let opening : Assembly := { assembly with opener := some frame.opcode }
      -- Nothing is left of an earlier message when the next one opens.
      have fresh : opening.collected ++ frame.payload = frame.payload := by
        rw [show opening.collected = assembly.collected from rfl, sound.collected_eq_nil opens,
          List.nil_append]
      have begun : (opening.extend frame.payload).open? = some (frame.opcode, frame.payload) := by
        rw [open?_extend rfl, fresh]
      rw [if_neg Bool.false_ne_true]
      dsimp only
      rcases Nat.lt_or_ge frame.payload.length assembly.limit with fits | full
      · have collected : opening.collect frame.payload = (.ok (), opening.extend frame.payload) :=
          collect_of_lt (by rwa [fresh])
        rw [collected, begun]
        exact .begins data closed final fits
      · have refused : opening.collect frame.payload =
            (.error .tooLarge, opening.extend frame.payload) := collect_of_le (by rwa [fresh])
        rw [refused, begun]
        exact .beginsTooLarge data closed final full

/-- A fragment goes on with the message that is open. -/
theorem pushes_of_continuation (sound : assembly.Sound)
    (continues : frame.opcode = .continuation) :
    assembly.Pushes frame (assembly.push frame).1 (assembly.push frame).2.open? := by
  simp only [push, continues]
  cases opens : assembly.opener with
  | none =>
    have closed := open?_eq_none opens
    rw [closed]
    exact .strays continues closed
  | some opcode =>
    have opened := open?_eq_some opens
    dsimp only
    rcases Nat.lt_or_ge (assembly.collected ++ frame.payload).length assembly.limit with
      fits | full
    · rw [collect_of_lt fits]
      dsimp only
      by_cases final : frame.fin = true
      · rw [if_pos final, collected_extend]
        exact .completes continues opened (sound.data opcode opens) final fits
      · rw [if_neg final, open?_extend opens]
        exact .goesOn continues opened (Bool.eq_false_iff.mpr final) fits
    · rw [collect_of_le full, open?_extend opens]
      exact .growsTooLarge continues opened full

theorem push_of_control (control : frame.opcode.isControl = true) :
    assembly.push frame = (.ok (some frame), assembly) := by
  unfold push
  cases opcode : frame.opcode with
  | close | ping | pong => rfl
  | text | binary | continuation =>
    rw [opcode] at control
    cases control

/-- The rules cover every frame. -/
theorem pushes (sound : assembly.Sound) (frame : Frame) :
    assembly.Pushes frame (assembly.push frame).1 (assembly.push frame).2.open? := by
  cases opcode : frame.opcode with
  | text => exact pushes_of_data sound (.inl opcode)
  | binary => exact pushes_of_data sound (.inr opcode)
  | continuation => exact pushes_of_continuation sound opcode
  | close | ping | pong =>
    have control : frame.opcode.isControl = true := by rw [opcode]; rfl
    rw [push_of_control control]
    exact .passes control

theorem sound_push (sound : assembly.Sound) (frame : Frame) :
    (assembly.push frame).2.Sound ∧ (assembly.push frame).2.limit = assembly.limit := by
  unfold push
  cases opcode : frame.opcode with
  | text | binary =>
    dsimp only
    split
    · exact ⟨sound, rfl⟩
    · split
      · exact ⟨sound, rfl⟩
      · refine ⟨⟨fun closed => ?_, fun opened opens => ?_⟩, rfl⟩
        · cases closed
        · cases opens
          simp
  | continuation =>
    cases opens : assembly.opener with
    | none => exact ⟨sound, rfl⟩
    | some opened =>
      have extended : (assembly.extend frame.payload).Sound := by
        refine ⟨fun closed => ?_, sound.data⟩
        have still : assembly.opener = none := closed
        rw [opens] at still
        cases still
      dsimp only
      rcases Nat.lt_or_ge (assembly.collected ++ frame.payload).length assembly.limit with
        fits | full
      · rw [collect_of_lt fits]
        dsimp only
        split
        · exact ⟨sound_empty _, rfl⟩
        · exact ⟨extended, rfl⟩
      · rw [collect_of_le full]
        exact ⟨extended, rfl⟩
  | close | ping | pong => exact ⟨sound, rfl⟩

/-- What comes out with a control opcode went in as it is. -/
theorem Sound.eq_of_control (sound : assembly.Sound)
    (pushed : assembly.push frame = (.ok (some message), after))
    (control : message.opcode.isControl = true) : message = frame := by
  have pushes := pushes sound frame
  rw [pushed] at pushes
  dsimp only at pushes
  generalize after.open? = left at pushes
  cases pushes with
  | passes | whole => rfl
  | completes _ _ data => rcases data with rfl | rfl <;> cases control

end Assembly

end WebSocket
