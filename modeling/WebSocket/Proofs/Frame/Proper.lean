import WebSocket.Call
import WebSocket.Proofs.Frame.RoundTrip
import WebSocket.Proofs.Traffic

/-! # Frames that a client may write

A frame is proper when it obeys the framing rules and, if it is a close frame, has a payload that a
peer accepts (`Frame.IsProper`). The rules are kept by all that builds the frames of a client: the
calls of its users, the answers to control frames and the answers to violations. On the wire a
proper frame shows clear reserved bits and a mask (`IsProper.masked_eq`).
-/

namespace WebSocket

theorem Bytes.isUtf8_ofString (text : String) : (Bytes.ofString text).isUtf8 = true := by
  have same : text.toByteArray.data.toList.toByteArray = text.toByteArray :=
    ByteArray.ext (by simp)
  rw [Bytes.isUtf8, ByteArray.validateUTF8_eq_true_iff, Bytes.ofString, same]
  exact text.isValidUTF8

/-- The two bytes of a status code spell its number. -/
theorem CloseCode.exists_bytes (code : CloseCode) :
    ∃ high low, Bytes.writeBe 2 code.toUInt16.toNat = [high, low] ∧
      UInt16.ofNat (Bytes.readBe [high, low]) = code.toUInt16 := by
  have fits : code.toUInt16.toNat < Bytes.range 2 := code.toUInt16.toNat_lt
  have read := Bytes.readBe_writeBe_of_lt fits
  obtain ⟨high, low, bytes⟩ :
      ∃ high low, Bytes.writeBe 2 code.toUInt16.toNat = [high, low] := ⟨_, _, rfl⟩
  rw [bytes] at read
  exact ⟨high, low, bytes, by rw [read, UInt16.ofNat_toNat]⟩

namespace Frame

/-- The rules for what a client writes, which bound the size of control frames only. -/
structure IsProper (frame : Frame) : Prop where
  rsv1 : frame.rsv1 = false
  rsv2 : frame.rsv2 = false
  rsv3 : frame.rsv3 = false
  control : frame.opcode.isControl = true →
    frame.fin = true ∧ frame.payload.length ≤ maxControlPayload
  close : frame.opcode = .close → isValidClose frame.payload = true

variable {frame : Frame}

/-! ## Proper frames on the wire -/

/-- A decoder whose limit lies above its payload takes a proper frame. -/
theorem IsProper.isLegal (proper : frame.IsProper) {limit : Nat}
    (size : frame.payload.length < limit) (announceable : frame.payload.length ≤ maxPayload) :
    frame.IsLegal limit :=
  ⟨proper.rsv1, proper.rsv2, proper.rsv3, proper.control, size, announceable⟩

/-- The two header bytes of a proper frame show a mask and no reserved bit. -/
theorem IsProper.masked_eq (proper : frame.IsProper) (key : MaskKey) :
    ∃ first second rest, frame.masked .littleEndian key = first :: second :: rest ∧
      first &&& 0x70 = 0 ∧ second &&& 0x80 ≠ 0 := by
  obtain ⟨code, small, length, -⟩ := lengthForm_code frame.payload.length
  refine ⟨_, _, _, by rw [masked_eq_form, form, head_eq]; rfl, ?_, ?_⟩
  · simp only [firstByte, proper.rsv1, proper.rsv2, proper.rsv3]
    simpa using (firstByte_bits frame.fin frame.opcode).1
  · rw [length]
    exact (secondByte_bits code small).2.1

/-! ## Data -/

theorem isProper_of_data {opcode : OpCode} (data : opcode.isControl = false) (fin : Bool)
    (payload : Bytes) : IsProper { fin, opcode, payload } where
  rsv1 := rfl
  rsv2 := rfl
  rsv3 := rfl
  control control := by
    rw [data] at control
    cases control
  close close := by
    dsimp only at close
    rw [close] at data
    cases data

theorem isControl_fragment {opcode : OpCode} (data : opcode.isControl = false)
    (role : FragmentRole) (payload : Bytes) :
    (fragment opcode role payload).opcode.isControl = false := by
  cases role with
  | none | first => exact data
  | last => rfl

theorem isProper_fragment {opcode : OpCode} (data : opcode.isControl = false) (role : FragmentRole)
    (payload : Bytes) : (fragment opcode role payload).IsProper := by
  cases role with
  | none | first => exact isProper_of_data data _ _
  | last => exact isProper_of_data rfl _ _

theorem exists_of_mem_laterFragments {parts : List Bytes} (member : frame ∈ laterFragments parts) :
    ∃ role payload, frame = fragment .continuation role payload := by
  fun_induction laterFragments parts with
  | case1 => cases member
  | case2 part => exact ⟨_, _, List.mem_singleton.mp member⟩
  | case3 part parts more ih =>
    rcases List.mem_cons.mp member with rfl | later
    · exact ⟨_, _, rfl⟩
    · exact ih later

/-- The frames of a message are fragments with its opcode or continuations. -/
theorem exists_of_mem_fragments {opcode : OpCode} {parts : List Bytes}
    (member : frame ∈ fragments opcode parts) :
    ∃ role payload, frame = fragment opcode role payload ∨
      frame = fragment .continuation role payload := by
  unfold fragments at member
  split at member
  · cases member
  · exact ⟨_, _, .inl (List.mem_singleton.mp member)⟩
  · rcases List.mem_cons.mp member with rfl | later
    · exact ⟨_, _, .inl rfl⟩
    · obtain ⟨role, payload, same⟩ := exists_of_mem_laterFragments later
      exact ⟨role, payload, .inr same⟩

/-- The frames of a data message are proper data frames. -/
theorem isProper_fragments {opcode : OpCode} (data : opcode.isControl = false)
    {parts : List Bytes} (member : frame ∈ fragments opcode parts) :
    frame.IsProper ∧ frame.opcode.isControl = false := by
  obtain ⟨role, payload, rfl | rfl⟩ := exists_of_mem_fragments member
  · exact ⟨isProper_fragment data _ _, isControl_fragment data _ _⟩
  · exact ⟨isProper_fragment rfl _ _, isControl_fragment rfl _ _⟩

/-! ## Control -/

theorem isProper_ping {payload : Bytes} (short : payload.length ≤ maxControlPayload) :
    (ping payload).IsProper :=
  ⟨rfl, rfl, rfl, fun _ => ⟨rfl, short⟩, nofun⟩

theorem isProper_pong {payload : Bytes} (short : payload.length ≤ maxControlPayload) :
    (pong payload).IsProper :=
  ⟨rfl, rfl, rfl, fun _ => ⟨rfl, short⟩, nofun⟩

theorem isProper_closeRaw {payload : Bytes} (short : payload.length ≤ maxControlPayload)
    (valid : isValidClose payload = true) : (closeRaw payload).IsProper :=
  ⟨rfl, rfl, rfl, fun _ => ⟨rfl, short⟩, fun _ => valid⟩

/-- A code that a number can stand for is read back from the first two bytes. -/
theorem isValidClose_close {code : CloseCode} (same : .ofUInt16 code.toUInt16 = code)
    (allowed : code.isAllowed = true) {reason : Bytes} (readable : reason.isUtf8 = true) :
    isValidClose (close code reason).payload = true := by
  obtain ⟨high, low, bytes, read⟩ := code.exists_bytes
  simp only [close, closeRaw, bytes, List.cons_append, List.nil_append, isValidClose, read, same,
    allowed, readable, Bool.and_self]

theorem isProper_close {code : CloseCode} (same : .ofUInt16 code.toUInt16 = code)
    (allowed : code.isAllowed = true) {reason : Bytes} (readable : reason.isUtf8 = true)
    (short : reason.length + 2 ≤ maxControlPayload) : (close code reason).IsProper := by
  refine isProper_closeRaw ?_ (isValidClose_close same allowed readable)
  rw [List.length_append, Bytes.length_writeBe]
  omega

/-- The pong for a ping that may be received may be written. -/
theorem isProper_pongFor (emptyPong : Bool) {ping : Frame}
    (short : ping.payload.length ≤ maxControlPayload) :
    (ping.pongFor emptyPong).IsProper ∧ (ping.pongFor emptyPong).opcode = .pong := by
  unfold pongFor
  split
  · exact ⟨isProper_pong (by decide), rfl⟩
  · exact ⟨isProper_pong short, rfl⟩

/-- The echo of a close frame repeats a code that may travel. -/
theorem isProper_closeEcho {echo : Frame} (echoes : frame.closeEcho = .ok echo) :
    echo.IsProper ∧ echo.opcode = .close := by
  unfold closeEcho at echoes
  split at echoes
  · cases echoes
    exact ⟨isProper_closeRaw (by decide) rfl, rfl⟩
  · cases echoes
  · dsimp only at echoes
    split at echoes
    · cases echoes
    · next allowed =>
      split at echoes
      · cases echoes
      · cases echoes
        simp only [Bool.not_eq_true', Bool.not_eq_false] at allowed
        exact ⟨isProper_close (by rw [CloseCode.toUInt16_ofUInt16]) allowed rfl (by decide), rfl⟩

end Frame

/-! ## Violations -/

namespace Violation

/-- The texts of violations fit behind a status code. -/
theorem length_message (cause : Violation) :
    (Bytes.ofString cause.message).length + 2 ≤ maxControlPayload := by
  cases cause with
  | unknownOpCode value =>
    have fits : ∀ value < 256,
        (Bytes.ofString ("Invalid opcode (byte=" ++ toString value ++ ")")).length + 2 ≤
          maxControlPayload := by
      decide +kernel
    exact fits value.toNat value.toNat_lt
  | _ => decide +kernel

/-- The codes with which violations are answered may travel. -/
theorem isAllowed_closeCode (cause : Violation) :
    .ofUInt16 cause.closeCode.toUInt16 = cause.closeCode ∧ cause.closeCode.isAllowed = true := by
  cases cause <;> exact ⟨rfl, rfl⟩

theorem isProper_close (cause : Violation) :
    (Frame.close cause.closeCode (Bytes.ofString cause.message)).IsProper :=
  Frame.isProper_close cause.isAllowed_closeCode.1 cause.isAllowed_closeCode.2
    (Bytes.isUtf8_ofString _) cause.length_message

end Violation

end WebSocket
