import Mathlib.Order.Basic
import WebSocket.Proofs.Frame.Legality

/-! # Decoding what was encoded

A frame that obeys the framing rules comes back from its wire form, and nothing of what follows is
touched (`decode_form`): the three forms of the length announce the size that was written
(`announced_extension`), and the payload is uncovered under the key that stands in front of it. So
whole sequences of frames come back in their order, whether they were masked or not
(`exhaust_forms`).
-/

namespace WebSocket

/-! ## Frames that can be exchanged -/

/-- The header that a frame is read back as. -/
def Frame.header (frame : Frame) (masked : Bool) : FrameHeader where
  fin := frame.fin
  opcode := frame.opcode
  masked
  lengthCode := (Frame.lengthForm frame.payload.length).1

namespace Frame

/-! ## The two header bytes -/

/-- Without reserved bits the first byte is the final bit and the opcode. -/
theorem firstByte_eq {frame : Frame} {limit : Nat} (legal : frame.IsLegal limit) :
    frame.firstByte = (if frame.fin then 0x80 else 0) ||| frame.opcode.toUInt8 := by
  simp [firstByte, legal.rsv1, legal.rsv2, legal.rsv3]

/-- Such a byte gives back the final bit and the opcode, and no reserved bit. -/
theorem firstByte_bits (fin : Bool) (opcode : OpCode) :
    let byte := (if fin then 0x80 else 0) ||| opcode.toUInt8
    byte &&& 0x70 = 0 ∧ OpCode.ofUInt8? (byte &&& 0x0F) = some opcode ∧
      decide (byte &&& 0x80 ≠ 0) = fin := by
  cases fin <;> cases opcode <;> decide

/-- The mask bit and the length code share the second byte without touching each other. -/
theorem secondByte_bits (code : Nat) (small : code < 128) :
    (0x80 ||| UInt8.ofNat code) &&& 0x7F = UInt8.ofNat code ∧
      (0x80 ||| UInt8.ofNat code) &&& 0x80 ≠ 0 ∧
      UInt8.ofNat code &&& 0x7F = UInt8.ofNat code ∧ UInt8.ofNat code &&& 0x80 = 0 := by
  revert code
  decide

/-- The second byte of a frame whose length has a given form. -/
def secondByte (masked : Bool) (code : UInt8) : UInt8 :=
  if masked then 0x80 ||| code else code

theorem lengthForm_code (length : Nat) :
    ∃ code < 128, (lengthForm length).1 = .ofNat code ∧
      (length < 126 → code = length) := by
  unfold lengthForm
  split
  · next tiny => exact ⟨length, by omega, rfl, fun _ => rfl⟩
  · split
    · exact ⟨126, by omega, rfl, fun _ => by omega⟩
    · exact ⟨127, by omega, rfl, fun _ => by omega⟩

/-- The two header bytes of a legal frame are read as its header. -/
theorem ofBytes_firstByte {frame : Frame} {limit : Nat} (legal : frame.IsLegal limit)
    (masked : Bool) :
    FrameHeader.ofBytes frame.firstByte
      (secondByte masked (lengthForm frame.payload.length).1) = .ok (frame.header masked) := by
  obtain ⟨clear, opcode, fin⟩ := firstByte_bits frame.fin frame.opcode
  obtain ⟨code, small, form, tiny⟩ := lengthForm_code frame.payload.length
  obtain ⟨maskedCode, maskedBit, plainCode, plainBit⟩ := secondByte_bits code small
  have lengthCode : secondByte masked (.ofNat code) &&& 0x7F = .ofNat code := by
    cases masked <;> assumption
  have bit : decide (secondByte masked (.ofNat code) &&& 0x80 ≠ 0) = masked := by
    cases masked <;> simp [secondByte, maskedBit, plainBit]
  have fitting :
      (frame.opcode.isControl && maxControlPayload < (UInt8.ofNat code).toNat) = false := by
    cases control : frame.opcode.isControl with
    | false => rfl
    | true =>
      have short := (legal.control control).2
      have same := tiny (by simp only [maxControlPayload] at short; omega)
      rw [← same] at short
      simp only [UInt8.toNat_ofNat', Bool.true_and, decide_eq_false_iff_not]
      omega
  have whole : (frame.opcode.isControl && !frame.fin) = false := by
    cases control : frame.opcode.isControl with
    | false => rfl
    | true => simp [(legal.control control).1]
  rw [form, firstByte_eq legal]
  unfold FrameHeader.ofBytes
  simp only [clear, opcode, fin, lengthCode, bit, fitting, whole, header, form]
  rfl

/-! ## Length and key -/

/-- What stands between the header bytes and the payload: the rest of the length, and the key. -/
def extension (frame : Frame) (key : Option MaskKey) : Bytes :=
  (lengthForm frame.payload.length).2 ++ key.elim [] MaskKey.toBytes

theorem head_eq (frame : Frame) (key : Option MaskKey) :
    frame.head key =
      frame.firstByte :: secondByte key.isSome (lengthForm frame.payload.length).1 ::
        frame.extension key := by
  cases key <;> simp [head, secondByte, extension]

/-- The length code says how many bytes of the length follow. -/
theorem lengthBytes_header (frame : Frame) (masked : Bool) :
    (frame.header masked).lengthBytes = (lengthForm frame.payload.length).2.length := by
  unfold FrameHeader.lengthBytes header lengthForm
  split
  · next tiny =>
    have other (code : Nat) (large : 126 ≤ code) (byte : code < 256) :
        UInt8.ofNat frame.payload.length ≠ .ofNat code := by
      intro same
      have := congrArg UInt8.toNat same
      simp only [UInt8.toNat_ofNat'] at this
      omega
    exact (if_neg (other 126 (by omega) (by omega))).trans
      (if_neg (other 127 (by omega) (by omega)))
  · split <;> simp

/-- Each of the three forms announces the length that it was made for. -/
theorem announced_extension (frame : Frame) (key : Option MaskKey)
    (announceable : frame.payload.length ≤ maxPayload) :
    (frame.header key.isSome).announced (frame.extension key) = frame.payload.length := by
  unfold FrameHeader.announced
  rw [lengthBytes_header]
  simp only [extension, List.take_left', header]
  unfold lengthForm
  split
  · simp only [List.length_nil, if_true, UInt8.toNat_ofNat']
    omega
  · split
    · next short =>
      have fits : frame.payload.length < Bytes.range 2 := short
      simpa using Bytes.readBe_writeBe_of_lt fits
    · simp only [maxPayload] at announceable
      have fits : frame.payload.length < Bytes.range 8 := by
        simp only [Bytes.range]
        omega
      simpa using Bytes.readBe_writeBe_of_lt fits

theorem length_extension (frame : Frame) (key : Option MaskKey) :
    (frame.extension key).length =
      (frame.header key.isSome).lengthBytes + (frame.header key.isSome).keyBytes := by
  rw [lengthBytes_header, extension, List.length_append]
  cases key <;> rfl

theorem keyIn_extension (frame : Frame) (key : Option MaskKey) :
    (frame.header key.isSome).keyIn (frame.extension key) = key := by
  rw [FrameHeader.keyIn, lengthBytes_header, extension, List.drop_left]
  cases key <;> rfl

/-! ## One frame -/

/-- How a frame travels with a key, or without one. -/
def form (frame : Frame) (key : Option MaskKey) : Bytes :=
  frame.head key ++ key.elim frame.payload (·.cover frame.payload)

theorem masked_eq_form (frame : Frame) (order : ByteOrder) (key : MaskKey) :
    frame.masked order key = frame.form (some key) := by
  rw [masked, form, MaskKey.apply_eq_cover]
  rfl

/-- A legal frame comes back with the key that it travelled with, and what follows it stays. -/
theorem decode_form {frame : Frame} {limit : Nat} (legal : frame.IsLegal limit)
    (key : Option MaskKey) (rest : Bytes) :
    ({ limit } : Decoder).decode (frame.form key ++ rest) =
      ⟨.ok (some { frame with mask := key }), { limit }, rest⟩ := by
  have covered :
      (key.elim frame.payload (·.cover frame.payload)).length = frame.payload.length := by
    cases key <;> simp
  have extensionCut : Bytes.cut?
      ((frame.header key.isSome).lengthBytes + (frame.header key.isSome).keyBytes)
      (frame.extension key ++ (key.elim frame.payload (·.cover frame.payload) ++ rest)) =
        some (frame.extension key, key.elim frame.payload (·.cover frame.payload) ++ rest) :=
    Bytes.cut?_eq_some_iff.mpr ⟨length_extension frame key, rfl⟩
  have payloadCut : Bytes.cut? frame.payload.length
      (key.elim frame.payload (·.cover frame.payload) ++ rest) =
        some (key.elim frame.payload (·.cover frame.payload), rest) :=
    Bytes.cut?_eq_some_iff.mpr ⟨covered, rfl⟩
  have accepted : ¬ (maxPayload < frame.payload.length ∨ limit ≤ frame.payload.length) := by
    have := legal.size
    have := legal.announceable
    omega
  simp only [form, head_eq, List.cons_append, List.append_assoc, Decoder.decode, Decoder.takeHeader,
    ofBytes_firstByte legal, Decoder.takeExtension, extensionCut,
    announced_extension frame key legal.announceable, if_neg accepted, keyIn_extension,
    Decoder.takePayload, payloadCut]
  obtain ⟨fin, rsv1, rsv2, rsv3, opcode, mask, payload⟩ := frame
  obtain ⟨rfl, rfl, rfl, -, -, -⟩ := legal
  cases key <;> simp [header, MaskKey.apply_eq_cover, MaskKey.cover_cover]

/-! ## Sequences of frames -/

/-- What comes of legal frames that travel one after the other, each with its key or without one. -/
theorem exhaust_forms {limit : Nat} (frames : List (Frame × Option MaskKey))
    (legal : ∀ entry ∈ frames, entry.1.IsLegal limit) :
    ({ limit } : Decoder).exhaust (frames.flatMap fun entry => entry.1.form entry.2) =
      { results := frames.map fun entry => .ok { entry.1 with mask := entry.2 }
        decoder := { limit } } := by
  induction frames with
  | nil =>
    rw [Decoder.exhaust_eq]
    rfl
  | cons entry frames ih =>
    have decoded := decode_form (legal entry (List.mem_cons_self ..)) entry.2
      (frames.flatMap fun entry => entry.1.form entry.2)
    rw [List.flatMap_cons, Decoder.exhaust_eq, decoded]
    simp only [Decoded.result?]
    rw [ih fun other member => legal other (List.mem_cons_of_mem _ member), List.map_cons]

/-- Encoding appends the masked form to what the buffer holds. -/
theorem encodeInto?_eq {frame : Frame} (order : ByteOrder) (fresh : MaskKey) (buffer : Bytes)
    (announceable : frame.payload.length ≤ maxPayload) :
    frame.encodeInto? order fresh buffer =
      some (buffer ++ frame.form (some (frame.writingKey fresh))) := by
  rw [encodeInto?, if_pos announceable]
  simp only [MaskKey.applyFrom, List.take_left, List.drop_left, MaskKey.apply_eq_cover]
  rw [form, ← List.append_assoc]
  rfl

end Frame

end WebSocket
