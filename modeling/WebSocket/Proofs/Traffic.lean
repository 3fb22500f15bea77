import WebSocket.Control
import WebSocket.Lifecycle
import WebSocket.Proofs.Assembly
import WebSocket.Proofs.Frame.Legality

/-! # What the traffic of a peer says

The events that a decoded byte string deserves, as one pass over its frames that knows nothing of
connections (`reports`): messages are put together, control frames stay where they are, and the
first breach of the protocol or the first close frame ends it. Later frames only add to the events
(`reports_append`). Message assembly goes through the same pass one frame at a time
(`reports_push`).
-/

namespace WebSocket

/-! ## The events of a list of frames -/

/-- An event about a frame that is final and carries no mask and no reserved bit. -/
def Event.about (status : ConnectionStatus) (opcode : OpCode) (payload : Bytes) : Event :=
  { status, frame := some { opcode, payload } }

/-- Whether the payload of a close frame is empty, or an allowed status code and a readable reason
behind it. -/
def isValidClose : Bytes → Bool
  | [] => true
  | [_] => false
  | high :: low :: reason =>
    (CloseCode.ofUInt16 (.ofNat (Bytes.readBe [high, low]))).isAllowed && Bytes.isUtf8 reason

/-- The events that decoded frames deserve, given a limit to the size of fragmented messages, and
the opcode and the bytes of the message that is open. -/
def reports (limit : Nat) (opened : Option (OpCode × Bytes)) :
    List (Except Violation Frame) → List Event
  | [] => []
  | .error _ :: _ => []
  | .ok frame :: later =>
    if frame.isMasked then []
    else match frame.opcode with
      | .text | .binary =>
        if opened.isSome then []
        else if frame.fin then
          .about .dataReceived frame.opcode frame.payload :: reports limit none later
        else if limit ≤ frame.payload.length then []
        else reports limit (some (frame.opcode, frame.payload)) later
      | .continuation =>
        match opened with
        | none => []
        | some (opcode, bytes) =>
          if limit ≤ (bytes ++ frame.payload).length then []
          else if frame.fin then
            .about .dataReceived opcode (bytes ++ frame.payload) :: reports limit none later
          else reports limit (some (opcode, bytes ++ frame.payload)) later
      | .ping => .about .pingReceived .ping frame.payload :: reports limit opened later
      | .pong => .about .pongReceived .pong frame.payload :: reports limit opened later
      | .close =>
        if isValidClose frame.payload then [.about .closeReceived .close frame.payload] else []

/-- Later frames only add events. -/
theorem reports_append (limit : Nat) (opened : Option (OpCode × Bytes))
    (results more : List (Except Violation Frame)) :
    reports limit opened results <+: reports limit opened (results ++ more) := by
  induction results generalizing opened with
  | nil => exact List.nil_prefix
  | cons result later ih =>
    have adding (event : Event) (opened : Option (OpCode × Bytes)) :
        event :: reports limit opened later <+: event :: reports limit opened (later ++ more) :=
      List.cons_prefix_cons.mpr ⟨rfl, ih opened⟩
    cases result with
    | error cause => exact List.prefix_rfl
    | ok frame =>
      simp only [List.cons_append, reports]
      split
      · exact List.prefix_rfl
      · cases opcode : frame.opcode with
        | text | binary =>
          dsimp only
          split
          · exact List.prefix_rfl
          · split
            · exact adding _ _
            · split
              · exact List.prefix_rfl
              · exact ih _
        | continuation =>
          cases opened with
          | none => exact List.prefix_rfl
          | some opened =>
            dsimp only
            split
            · exact List.prefix_rfl
            · split
              · exact adding _ _
              · exact ih _
        | ping | pong => exact adding _ _
        | close => exact List.prefix_rfl

/-- The close frames that are answered are those whose payload is valid. -/
theorem closeEcho_eq_ok_iff {frame : Frame} :
    (∃ echo, frame.closeEcho = .ok echo) ↔ isValidClose frame.payload = true := by
  unfold Frame.closeEcho isValidClose
  match frame.payload with
  | [] => simp
  | [_] => simp
  | high :: low :: reason =>
    dsimp only
    split
    · next forbidden => simp_all
    · next allowed =>
      split
      · next unreadable => simp_all
      · next readable => simp_all

/-- The events of a message, and of what comes after it. -/
def heard (message : Frame) (later : List Event) : List Event :=
  match message.opcode with
  | .continuation | .text | .binary => { status := .dataReceived, frame := some message } :: later
  | .ping => { status := .pingReceived, frame := some message } :: later
  | .pong => { status := .pongReceived, frame := some message } :: later
  | .close =>
    if isValidClose message.payload then [{ status := .closeReceived, frame := some message }]
    else []

theorem heard_of_data {message : Frame} (data : message.opcode.isControl = false)
    (later : List Event) :
    heard message later = { status := .dataReceived, frame := some message } :: later := by
  unfold heard
  cases opcode : message.opcode <;> simp_all [OpCode.isControl]

/-- A final frame without a mask and without reserved bits is given by its opcode and payload. -/
theorem Frame.IsLegal.eq_of_final {frame : Frame} {limit : Nat} (legal : frame.IsLegal limit)
    (unmasked : frame.isMasked = false) (final : frame.fin = true) :
    frame = { opcode := frame.opcode, payload := frame.payload } := by
  obtain ⟨fin, rsv1, rsv2, rsv3, opcode, mask, payload⟩ := frame
  obtain ⟨rfl, rfl, rfl, -, -, -⟩ := legal
  simp only [isMasked, Option.isSome_eq_false_iff, Option.isNone_iff_eq_none] at unmasked
  simp_all

/-- The events after one more frame went through assembly. -/
def heardAfter (pushed : Except Violation (Option Frame) × Assembly)
    (later : List (Except Violation Frame)) : List Event :=
  match pushed with
  | (.error _, _) => []
  | (.ok none, after) => reports after.limit after.open? later
  | (.ok (some message), after) => heard message (reports after.limit after.open? later)

theorem heardAfter_eq (pushed : Except Violation (Option Frame) × Assembly)
    (later : List (Except Violation Frame)) :
    heardAfter pushed later =
      match pushed.1 with
      | .error _ => []
      | .ok none => reports pushed.2.limit pushed.2.open? later
      | .ok (some message) => heard message (reports pushed.2.limit pushed.2.open? later) := by
  obtain ⟨outcome, after⟩ := pushed
  rcases outcome with _ | _ | _ <;> rfl

theorem reports_of_data {frame : Frame} {limit : Nat} (unmasked : frame.isMasked = false)
    (data : frame.opcode = .text ∨ frame.opcode = .binary) (opened : Option (OpCode × Bytes))
    (later : List (Except Violation Frame)) :
    reports limit opened (.ok frame :: later) =
      if opened.isSome then []
      else if frame.fin then
        .about .dataReceived frame.opcode frame.payload :: reports limit none later
      else if limit ≤ frame.payload.length then []
      else reports limit (some (frame.opcode, frame.payload)) later := by
  rcases data with opcode | opcode <;> simp [reports, unmasked, opcode]

/-- One frame takes message assembly and the pass over the frames equally far. -/
theorem reports_push {assembly : Assembly} (sound : assembly.Sound) {frame : Frame} {limit : Nat}
    (legal : frame.IsLegal limit) (unmasked : frame.isMasked = false)
    (later : List (Except Violation Frame)) :
    reports assembly.limit assembly.open? (.ok frame :: later) =
      heardAfter (assembly.push frame) later := by
  have pushes := assembly.pushes sound frame
  have plain := legal.eq_of_final unmasked
  rw [heardAfter_eq, (Assembly.sound_push sound frame).2]
  generalize (assembly.push frame).1 = outcome, (assembly.push frame).2.open? = left at pushes ⊢
  cases pushes with
  | passes control =>
    rw [plain (legal.control control).1]
    cases opcode : frame.opcode with
    | close | ping | pong => rfl
    | text | binary | continuation =>
      rw [opcode] at control
      cases control
  | interrupts data opens =>
    rw [reports_of_data unmasked data, opens]
    rfl
  | whole data closed final =>
    rw [reports_of_data unmasked data, closed, final]
    dsimp only
    rw [heard_of_data (OpCode.not_isControl_of_data data), plain final]
    rfl
  | begins data closed more fits =>
    rw [reports_of_data unmasked data, closed, more, if_neg (Nat.not_le.mpr fits)]
    rfl
  | beginsTooLarge data closed more full =>
    rw [reports_of_data unmasked data, closed, more, if_pos full]
    rfl
  | strays continues closed => simp [reports, unmasked, continues, closed]
  | goesOn continues opens more fits =>
    simp only [reports, unmasked, continues, opens, more, if_neg (Nat.not_le.mpr fits),
      Bool.false_eq_true, if_false]
  | completes continues opens data final fits =>
    simp only [reports, unmasked, continues, opens, final, if_neg (Nat.not_le.mpr fits),
      Bool.false_eq_true, if_false, if_true]
    rw [plain final]
    rcases data with rfl | rfl <;> rfl
  | growsTooLarge continues opens full =>
    simp only [reports, unmasked, continues, opens, if_pos full, Bool.false_eq_true, if_false]

end WebSocket
