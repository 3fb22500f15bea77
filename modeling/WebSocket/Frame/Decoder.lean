import WebSocket.Frame.Wire
import WebSocket.Violation

/-! # Decoding frames

A decoder reads frames from a growing buffer, one part at a time: the two header bytes, then the
extended length together with the key, then the payload. It takes a part off the buffer as soon as
all of it is there, so it stands in one of three stages between two calls. After a violation it
starts afresh on the bytes that remain.

Masked frames are accepted and uncovered here; whether a peer may mask is for the caller to judge.
-/

namespace WebSocket

/-- What the two header bytes say. -/
structure FrameHeader where
  fin : Bool
  opcode : OpCode
  masked : Bool
  /-- The low seven bits of the second byte. -/
  lengthCode : UInt8
deriving DecidableEq, Repr

namespace FrameHeader

/-- The bytes that the rest of the length takes. -/
def lengthBytes (header : FrameHeader) : Nat :=
  if header.lengthCode = 126 then 2 else if header.lengthCode = 127 then 8 else 0

def keyBytes (header : FrameHeader) : Nat :=
  if header.masked then 4 else 0

/-- The payload size that the header announces together with its extension, which is the rest of the
length and then the key. -/
def announced (header : FrameHeader) (extension : Bytes) : Nat :=
  if header.lengthBytes = 0 then header.lengthCode.toNat
  else Bytes.readBe (extension.take header.lengthBytes)

/-- The key that an extension holds when the frame is masked. -/
def keyIn (header : FrameHeader) (extension : Bytes) : Option MaskKey :=
  MaskKey.ofBytes? (extension.drop header.lengthBytes)

/-- Reads the two header bytes. Of several faults the first one in this order counts: reserved bits,
opcode, a fragmented control frame, a control frame that is too long. -/
def ofBytes (first second : UInt8) : Except Violation FrameHeader :=
  if first &&& 0x70 ≠ 0 then .error .reservedBits
  else match OpCode.ofUInt8? (first &&& 0x0F) with
    | none => .error (.unknownOpCode (first &&& 0x0F))
    | some opcode =>
      let header : FrameHeader := {
        fin := first &&& 0x80 ≠ 0
        opcode
        masked := second &&& 0x80 ≠ 0
        lengthCode := second &&& 0x7F }
      if opcode.isControl && !header.fin then .error .fragmentedControl
      else if opcode.isControl && maxControlPayload < header.lengthCode.toNat then
        .error .oversizedControl
      else .ok header

end FrameHeader

/-- How far the frame at hand has been read. -/
inductive DecoderStage where
  | start
  /-- The two header bytes are taken. -/
  | header (header : FrameHeader)
  /-- All but the payload is taken. -/
  | payload (header : FrameHeader) (key : Option MaskKey) (length : Nat)
deriving DecidableEq, Repr

/-- A frame decoder: its stage, and the payload size from which on a frame is refused. -/
structure Decoder where
  limit : Nat
  stage : DecoderStage := .start
deriving DecidableEq, Repr

/-- The outcome of one call: a frame, a violation, or nothing yet; the decoder after it; and the
bytes that stay in the buffer. -/
structure Decoded where
  outcome : Except Violation (Option Frame)
  decoder : Decoder
  rest : Bytes

namespace Decoder

/-- Takes the payload once all of it is there. A buffer for the announced length can always be had:
the limit keeps it to what memory holds. -/
def takePayload (decoder : Decoder) (header : FrameHeader) (key : Option MaskKey) (length : Nat)
    (buffer : Bytes) : Decoded :=
  match buffer.cut? length with
  | none => ⟨.ok none, { decoder with stage := .payload header key length }, buffer⟩
  | some (covered, rest) =>
    let payload := match key with
      | some key => key.apply .littleEndian covered
      | none => covered
    ⟨.ok (some { fin := header.fin, opcode := header.opcode, mask := key, payload }),
      { decoder with stage := .start }, rest⟩

/-- Takes the extended length and the key once both are there. A length that is refused is taken off
the buffer and its key is not. -/
def takeExtension (decoder : Decoder) (header : FrameHeader) (buffer : Bytes) : Decoded :=
  match buffer.cut? (header.lengthBytes + header.keyBytes) with
  | none => ⟨.ok none, { decoder with stage := .header header }, buffer⟩
  | some (extension, rest) =>
    if Frame.maxPayload < header.announced extension ∨ decoder.limit ≤ header.announced extension
    then
      let kept := extension.drop header.lengthBytes ++ rest
      ⟨.error .tooLarge, { decoder with stage := .start }, kept⟩
    else
      decoder.takePayload header (header.keyIn extension) (header.announced extension) rest

/-- Takes the two header bytes once both are there. -/
def takeHeader (decoder : Decoder) (buffer : Bytes) : Decoded :=
  match buffer with
  | first :: second :: rest =>
    match FrameHeader.ofBytes first second with
    | .error violation => ⟨.error violation, { decoder with stage := .start }, rest⟩
    | .ok header => decoder.takeExtension header rest
  | _ => ⟨.ok none, { decoder with stage := .start }, buffer⟩

/-- Goes on from the stage at hand as far as the buffer reaches, at most to the end of one frame. -/
def decode (decoder : Decoder) (buffer : Bytes) : Decoded :=
  match decoder.stage with
  | .start => decoder.takeHeader buffer
  | .header header => decoder.takeExtension header buffer
  | .payload header key length => decoder.takePayload header key length buffer

/-- Decodes at the end of the stream, where a frame that was cut short is dropped. -/
def decodeEnd (decoder : Decoder) (buffer : Bytes) : Decoded :=
  match decoder.decode buffer with
  | ⟨.ok none, after, _⟩ => ⟨.ok none, { after with stage := .start }, []⟩
  | decoded => decoded

/-! ## What a call takes off the buffer -/

theorem length_takePayload (decoder : Decoder) (header : FrameHeader) (key : Option MaskKey)
    (length : Nat) (buffer : Bytes) :
    (decoder.takePayload header key length buffer).rest.length ≤ buffer.length := by
  unfold takePayload
  split
  · exact Nat.le_refl _
  · next split => simp [(Bytes.cut?_eq_some_iff.mp split).2]

theorem length_takeExtension (decoder : Decoder) (header : FrameHeader) (buffer : Bytes) :
    (decoder.takeExtension header buffer).rest.length ≤ buffer.length := by
  unfold takeExtension
  split
  · exact Nat.le_refl _
  · next split =>
    obtain ⟨-, whole⟩ := Bytes.cut?_eq_some_iff.mp split
    split
    · simp [whole]
    · exact Nat.le_trans (length_takePayload ..) (by simp [whole])

/-- A call at the start of a frame that gives anything takes at least the two header bytes. -/
theorem length_rest_of_start (limit : Nat) (buffer : Bytes)
    (given : ({ limit : Decoder }.decode buffer).outcome ≠ .ok none) :
    ({ limit : Decoder }.decode buffer).rest.length + 2 ≤ buffer.length := by
  match buffer with
  | [] | [_] => exact absurd rfl given
  | first :: second :: rest =>
    simp only [decode, takeHeader]
    cases FrameHeader.ofBytes first second with
    | error violation => simp
    | ok header =>
      have := length_takeExtension { limit } header rest
      simp only [List.length_cons]
      omega

/-! ## Where a call leaves the decoder -/

@[simp] theorem limit_takePayload (decoder : Decoder) (header : FrameHeader) (key : Option MaskKey)
    (length : Nat) (buffer : Bytes) :
    (decoder.takePayload header key length buffer).decoder.limit = decoder.limit := by
  unfold takePayload
  split <;> rfl

@[simp] theorem limit_takeExtension (decoder : Decoder) (header : FrameHeader) (buffer : Bytes) :
    (decoder.takeExtension header buffer).decoder.limit = decoder.limit := by
  unfold takeExtension
  split
  · rfl
  · split
    · rfl
    · exact limit_takePayload ..

@[simp] theorem limit_decode (decoder : Decoder) (buffer : Bytes) :
    (decoder.decode buffer).decoder.limit = decoder.limit := by
  unfold decode
  split
  · unfold takeHeader
    split
    · split
      · rfl
      · exact limit_takeExtension ..
    · rfl
  · exact limit_takeExtension ..
  · exact limit_takePayload ..

theorem stage_takePayload {decoder : Decoder} {header : FrameHeader} {key : Option MaskKey}
    {length : Nat} {buffer : Bytes}
    (given : (decoder.takePayload header key length buffer).outcome ≠ .ok none) :
    (decoder.takePayload header key length buffer).decoder.stage = .start := by
  unfold takePayload at given ⊢
  split
  · next split => simp [split] at given
  · rfl

theorem stage_takeExtension {decoder : Decoder} {header : FrameHeader} {buffer : Bytes}
    (given : (decoder.takeExtension header buffer).outcome ≠ .ok none) :
    (decoder.takeExtension header buffer).decoder.stage = .start := by
  unfold takeExtension at given ⊢
  split
  · next split => simp [split] at given
  · next split =>
    simp only [split] at given
    split
    · rfl
    · next fits =>
      rw [if_neg fits] at given
      exact stage_takePayload given

/-- A call that gives anything leaves the decoder at the start of a frame. -/
theorem stage_decode {decoder : Decoder} {buffer : Bytes}
    (given : (decoder.decode buffer).outcome ≠ .ok none) :
    (decoder.decode buffer).decoder.stage = .start := by
  unfold decode at given ⊢
  cases stage : decoder.stage with
  | start =>
    simp only [stage, takeHeader] at given ⊢
    split
    · split
      · rfl
      · next read =>
        simp only [read] at given
        exact stage_takeExtension given
    · rfl
  | header header =>
    simp only [stage] at given ⊢
    exact stage_takeExtension given
  | payload header key length =>
    simp only [stage] at given ⊢
    exact stage_takePayload given

end Decoder

end WebSocket
