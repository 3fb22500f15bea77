import WebSocket.Proofs.Frame.Pieces
import WebSocket.Proofs.Mask

/-! # The framing rules

A decoder refuses a header as soon as it breaks a rule, and a length as soon as it is known. Hence
what it keeps between two calls obeys the rules (`DecoderStage.IsLegal`), and so does every frame
that it gives (`Decoder.decode_legal`), however the bytes arrive.
-/

namespace WebSocket

/-- The rules that a frame obeys so that a decoder with a given limit takes it. -/
structure Frame.IsLegal (limit : Nat) (frame : Frame) : Prop where
  rsv1 : frame.rsv1 = false
  rsv2 : frame.rsv2 = false
  rsv3 : frame.rsv3 = false
  control : frame.opcode.isControl = true →
    frame.fin = true ∧ frame.payload.length ≤ maxControlPayload
  size : frame.payload.length < limit
  announceable : frame.payload.length ≤ Frame.maxPayload

namespace FrameHeader

/-- The rules that the two header bytes obey. -/
def IsLegal (header : FrameHeader) : Prop :=
  header.opcode.isControl = true →
    header.fin = true ∧ header.lengthCode.toNat ≤ maxControlPayload

theorem isLegal_of_ofBytes {first second : UInt8} {header : FrameHeader}
    (read : ofBytes first second = .ok header) : header.IsLegal := by
  unfold ofBytes at read
  split at read
  · cases read
  · split at read
    · cases read
    · dsimp only at read
      split at read
      · cases read
      · next whole =>
        split at read
        · cases read
        · next small =>
          cases read
          intro control
          dsimp only at control ⊢
          simp only [control, Bool.true_and, Bool.not_eq_true', decide_eq_true_eq, Nat.not_lt,
            Bool.not_eq_false] at whole small
          exact ⟨decide_eq_true whole, small⟩

/-- A control frame announces its size in the header itself. -/
theorem IsLegal.announced_le {header : FrameHeader} (legal : header.IsLegal) (extension : Bytes)
    (control : header.opcode.isControl = true) :
    header.announced extension ≤ maxControlPayload := by
  obtain ⟨-, small⟩ := legal control
  have short : header.lengthBytes = 0 := by
    unfold lengthBytes
    split
    · next code => rw [code] at small; exact absurd small (by decide)
    · split
      · next code => rw [code] at small; exact absurd small (by decide)
      · rfl
  rw [announced, if_pos short]
  exact small

end FrameHeader

/-- What a decoder with a given limit may keep between two calls. -/
def DecoderStage.IsLegal (limit : Nat) : DecoderStage → Prop
  | .start => True
  | .header head => head.IsLegal
  | .payload head _ length =>
    head.IsLegal ∧ length < limit ∧ length ≤ Frame.maxPayload ∧
      (head.opcode.isControl = true → length ≤ maxControlPayload)

/-- A call leaves what may be kept, and gives a frame that obeys the rules if it gives one. -/
structure Decoded.IsLegal (limit : Nat) (decoded : Decoded) : Prop where
  stage : decoded.decoder.stage.IsLegal limit
  frame : ∀ frame, decoded.outcome = .ok (some frame) → frame.IsLegal limit

namespace Decoder

variable {decoder : Decoder}

theorem takePayload_legal {header : FrameHeader} {key : Option MaskKey} {length : Nat}
    (legal : (DecoderStage.payload header key length).IsLegal decoder.limit) (buffer : Bytes) :
    (decoder.takePayload header key length buffer).IsLegal decoder.limit := by
  unfold takePayload
  split
  · exact ⟨legal, nofun⟩
  · next covered rest cut =>
    refine ⟨trivial, ?_⟩
    intro frame given
    obtain ⟨headerLegal, fits, announceable, control⟩ := legal
    obtain ⟨size, -⟩ := Bytes.cut?_eq_some_iff.mp cut
    have holding (payload : Bytes) (same : payload.length = length) :
        Frame.IsLegal decoder.limit
          { fin := header.fin, opcode := header.opcode, mask := key, payload } := by
      subst same
      exact ⟨rfl, rfl, rfl, fun isControl => ⟨(headerLegal isControl).1, control isControl⟩, fits,
        announceable⟩
    cases given
    apply holding
    cases key with
    | none => exact size
    | some key =>
      dsimp only
      rw [MaskKey.apply_eq_cover, MaskKey.length_cover, size]

theorem takeExtension_legal {header : FrameHeader} (legal : header.IsLegal) (buffer : Bytes) :
    (decoder.takeExtension header buffer).IsLegal decoder.limit := by
  unfold takeExtension
  split
  · exact ⟨legal, nofun⟩
  · next extension rest cut =>
    split
    · exact ⟨trivial, nofun⟩
    · next fits =>
      rw [not_or, Nat.not_lt, Nat.not_le] at fits
      exact takePayload_legal ⟨legal, fits.2, fits.1, legal.announced_le extension⟩ rest

/-- One call keeps to the rules, whatever bytes it sees. -/
theorem decode_legal (legal : decoder.stage.IsLegal decoder.limit) (buffer : Bytes) :
    (decoder.decode buffer).IsLegal decoder.limit := by
  unfold decode
  cases stage : decoder.stage with
  | start =>
    dsimp only
    unfold takeHeader
    split
    · split
      · exact ⟨trivial, nofun⟩
      · next read => exact takeExtension_legal (FrameHeader.isLegal_of_ofBytes read) _
    · exact ⟨trivial, nofun⟩
  | header header =>
    rw [stage] at legal
    exact takeExtension_legal legal buffer
  | payload header key length =>
    rw [stage] at legal
    exact takePayload_legal legal buffer

end Decoder

end WebSocket
