import WebSocket.ByteStream
import WebSocket.Proofs.Frame.Grammar
import WebSocket.Proofs.Traffic

/-! # How a peer ends the exchange

One pass over the frames of a peer, which knows nothing of connections, says whether and how they
end the exchange (`fate?`): with the first breach of the protocol, with the first valid close frame,
or with the end of the stream behind them all. Message assembly goes through the same pass one frame
at a time (`fate?_push`).
-/

namespace WebSocket

/-- How the peer ends the exchange of frames. -/
inductive Fate where
  /-- It breaks the protocol. -/
  | refused (cause : Violation)
  /-- It closes, with this payload. -/
  | closed (payload : Bytes)
  /-- Nothing more can be read. -/
  | lost (ending : StreamEnd)
deriving DecidableEq, Repr

/-! ## The fate of a list of frames -/

/-- What is wrong with the payload of a close frame. Of several faults the first one in this order
counts: half a status code, a code that never travels, a reason that is not UTF-8. -/
def closeFault? : Bytes → Option Violation
  | [] => none
  | [_] => some .truncatedCloseCode
  | high :: low :: reason =>
    if !(CloseCode.ofUInt16 (.ofNat (Bytes.readBe [high, low]))).isAllowed then
      some .forbiddenCloseCode
    else if !Bytes.isUtf8 reason then some .notUtf8
    else none

/-- Whether a message is a text that cannot be read, as far as that is checked. -/
def isBadText (checkUtf8 : Bool) (opcode : OpCode) (bytes : Bytes) : Bool :=
  checkUtf8 && opcode = .text && !bytes.isUtf8

/-- How decoded frames end the exchange, if they do. Given are a limit to the size of fragmented
messages, whether texts are checked, how reading ends behind the frames, and the opcode and the
bytes of the message that is open. -/
def fate? (limit : Nat) (checkUtf8 : Bool) (ending : Option StreamEnd)
    (opened : Option (OpCode × Bytes)) : List (Except Violation Frame) → Option Fate
  | [] => ending.map .lost
  | .error cause :: _ => some (.refused cause)
  | .ok frame :: later =>
    if frame.isMasked then some (.refused .maskedByServer)
    else match frame.opcode with
      | .text | .binary =>
        if opened.isSome then some (.refused .messageInsideMessage)
        else if frame.fin then
          if isBadText checkUtf8 frame.opcode frame.payload then some (.refused .notUtf8)
          else fate? limit checkUtf8 ending none later
        else if limit ≤ frame.payload.length then some (.refused .tooLarge)
        else fate? limit checkUtf8 ending (some (frame.opcode, frame.payload)) later
      | .continuation =>
        match opened with
        | none => some (.refused .strayContinuation)
        | some (opcode, bytes) =>
          if limit ≤ (bytes ++ frame.payload).length then some (.refused .tooLarge)
          else if frame.fin then
            if isBadText checkUtf8 opcode (bytes ++ frame.payload) then some (.refused .notUtf8)
            else fate? limit checkUtf8 ending none later
          else fate? limit checkUtf8 ending (some (opcode, bytes ++ frame.payload)) later
      | .ping | .pong => fate? limit checkUtf8 ending opened later
      | .close =>
        match closeFault? frame.payload with
        | some cause => some (.refused cause)
        | none => some (.closed frame.payload)

/-! ## Close frames -/

theorem CloseCode.writeBe_toUInt16 (high low : UInt8) :
    Bytes.writeBe 2 (ofUInt16 (.ofNat (Bytes.readBe [high, low]))).toUInt16.toNat =
      [high, low] := by
  rw [toUInt16_ofUInt16, Bytes.toNat_ofNat_readBe]
  exact Bytes.writeBe_readBe [high, low]

/-- A close frame is answered as its payload asks: a fault is refused, and otherwise the status code
comes back without the reason. -/
theorem Frame.closeEcho_eq (frame : Frame) :
    frame.closeEcho =
      match closeFault? frame.payload with
      | some cause => .error cause
      | none => .ok (.closeRaw (frame.payload.take 2)) := by
  unfold closeEcho closeFault?
  match frame.payload with
  | [] => rfl
  | [_] => rfl
  | high :: low :: reason =>
    dsimp only
    split
    · rfl
    · split
      · rfl
      · rw [close, CloseCode.writeBe_toUInt16]
        rfl

/-! ## Frames that go through assembly -/

/-- The fate that a message brings about, or else what comes after it. -/
def Frame.fateAfter (checkUtf8 : Bool) (message : Frame) (later : Option Fate) : Option Fate :=
  match message.opcode with
  | .continuation | .text | .binary =>
    if isBadText checkUtf8 message.opcode message.payload then some (.refused .notUtf8) else later
  | .ping | .pong => later
  | .close =>
    match closeFault? message.payload with
    | some cause => some (.refused cause)
    | none => some (.closed message.payload)

theorem Frame.fateAfter_of_data {message : Frame} (data : message.opcode.isControl = false)
    (checkUtf8 : Bool) (later : Option Fate) :
    message.fateAfter checkUtf8 later =
      if isBadText checkUtf8 message.opcode message.payload then some (.refused .notUtf8)
      else later := by
  unfold fateAfter
  cases opcode : message.opcode <;> simp_all [OpCode.isControl]

/-- The fate after one more frame went through assembly. -/
def fateAfterPush (checkUtf8 : Bool) (ending : Option StreamEnd)
    (pushed : Except Violation (Option Frame) × Assembly)
    (later : List (Except Violation Frame)) : Option Fate :=
  match pushed with
  | (.error cause, _) => some (.refused cause)
  | (.ok none, after) => fate? after.limit checkUtf8 ending after.open? later
  | (.ok (some message), after) =>
    message.fateAfter checkUtf8 (fate? after.limit checkUtf8 ending after.open? later)

theorem fateAfterPush_eq (checkUtf8 : Bool) (ending : Option StreamEnd)
    (pushed : Except Violation (Option Frame) × Assembly)
    (later : List (Except Violation Frame)) :
    fateAfterPush checkUtf8 ending pushed later =
      match pushed.1 with
      | .error cause => some (.refused cause)
      | .ok none => fate? pushed.2.limit checkUtf8 ending pushed.2.open? later
      | .ok (some message) =>
        message.fateAfter checkUtf8
          (fate? pushed.2.limit checkUtf8 ending pushed.2.open? later) := by
  obtain ⟨outcome, after⟩ := pushed
  rcases outcome with _ | _ | _ <;> rfl

theorem fate?_of_data {frame : Frame} {limit : Nat} {checkUtf8 : Bool}
    {ending : Option StreamEnd} (unmasked : frame.isMasked = false)
    (data : frame.opcode = .text ∨ frame.opcode = .binary) (opened : Option (OpCode × Bytes))
    (later : List (Except Violation Frame)) :
    fate? limit checkUtf8 ending opened (.ok frame :: later) =
      if opened.isSome then some (.refused .messageInsideMessage)
      else if frame.fin then
        if isBadText checkUtf8 frame.opcode frame.payload then some (.refused .notUtf8)
        else fate? limit checkUtf8 ending none later
      else if limit ≤ frame.payload.length then some (.refused .tooLarge)
      else fate? limit checkUtf8 ending (some (frame.opcode, frame.payload)) later := by
  rcases data with opcode | opcode <;> simp [fate?, unmasked, opcode]

/-- One frame takes message assembly and the pass over the frames equally far. -/
theorem fate?_push {assembly : Assembly} (sound : assembly.Sound) {frame : Frame}
    (unmasked : frame.isMasked = false) (checkUtf8 : Bool) (ending : Option StreamEnd)
    (later : List (Except Violation Frame)) :
    fate? assembly.limit checkUtf8 ending assembly.open? (.ok frame :: later) =
      fateAfterPush checkUtf8 ending (assembly.push frame) later := by
  have pushes := assembly.pushes sound frame
  rw [fateAfterPush_eq, (Assembly.sound_push sound frame).2]
  generalize (assembly.push frame).1 = outcome, (assembly.push frame).2.open? = left at pushes ⊢
  cases pushes with
  | passes control =>
    cases opcode : frame.opcode with
    | close | ping | pong => simp [fate?, unmasked, opcode, Frame.fateAfter]
    | text | binary | continuation =>
      rw [opcode] at control
      cases control
  | interrupts data opens =>
    rw [fate?_of_data unmasked data, opens]
    rfl
  | whole data closed final =>
    rw [fate?_of_data unmasked data, closed, final]
    dsimp only
    rw [Frame.fateAfter_of_data (OpCode.not_isControl_of_data data)]
    rfl
  | begins data closed more fits =>
    rw [fate?_of_data unmasked data, closed, more, if_neg (Nat.not_le.mpr fits)]
    rfl
  | beginsTooLarge data closed more full =>
    rw [fate?_of_data unmasked data, closed, more, if_pos full]
    rfl
  | strays continues closed => simp [fate?, unmasked, continues, closed]
  | goesOn continues opens more fits =>
    simp only [fate?, unmasked, continues, opens, more, if_neg (Nat.not_le.mpr fits),
      Bool.false_eq_true, if_false]
  | completes continues opens data final fits =>
    simp only [fate?, unmasked, continues, opens, final, if_neg (Nat.not_le.mpr fits),
      Bool.false_eq_true, if_false, if_true]
    rcases data with rfl | rfl <;> rfl
  | growsTooLarge continues opens full =>
    simp only [fate?, unmasked, continues, opens, if_pos full, Bool.false_eq_true, if_false]

end WebSocket
