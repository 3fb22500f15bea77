import WebSocket.Frame.Decoder

/-! # Draining a buffer

`Decoder.drain` takes frame after frame off a buffer until a call gives none. That ends because each
call which gives a frame takes bytes off the buffer or, when it began in the middle of a frame, goes
back to the start of one (`backlog_decode_lt`).
-/

namespace WebSocket.Decoder

/-- What a buffer held: its frames, and the violation after them if that is what stopped the
decoder; the decoder afterwards; and the bytes that are left. -/
structure Drained where
  frames : List Frame
  fault : Option Violation
  decoder : Decoder
  rest : Bytes

/-- Bounds the calls that can still give something. -/
def backlog (decoder : Decoder) (buffer : Bytes) : Nat :=
  buffer.length + if decoder.stage = .start then 0 else 1

theorem length_rest_decode (decoder : Decoder) (buffer : Bytes) :
    (decoder.decode buffer).rest.length ≤ buffer.length := by
  unfold decode
  split
  · unfold takeHeader
    split
    · split
      · exact Nat.le_add_right _ 2
      · exact Nat.le_trans (length_takeExtension ..) (Nat.le_add_right _ 2)
    · exact Nat.le_refl _
  · exact length_takeExtension ..
  · exact length_takePayload ..

theorem backlog_decode_lt {decoder : Decoder} {buffer : Bytes}
    (given : (decoder.decode buffer).outcome ≠ .ok none) :
    (decoder.decode buffer).decoder.backlog (decoder.decode buffer).rest <
      decoder.backlog buffer := by
  simp only [backlog, stage_decode given, if_true]
  by_cases start : decoder.stage = .start
  · have whole : decoder = { limit := decoder.limit } := by
      cases decoder
      simp_all
    rw [whole] at given ⊢
    have := length_rest_of_start decoder.limit buffer given
    simp only [if_true]
    omega
  · have := length_rest_decode decoder buffer
    simp only [start, if_false]
    omega

/-- A call at the start of a frame that takes anything takes at least the two header bytes. -/
theorem length_rest_of_shorter (limit : Nat) (buffer : Bytes)
    (shorter : ({ limit : Decoder }.decode buffer).rest.length < buffer.length) :
    ({ limit : Decoder }.decode buffer).rest.length + 2 ≤ buffer.length := by
  match buffer with
  | [] | [_] => simp [decode, takeHeader] at shorter
  | first :: second :: rest =>
    simp only [decode, takeHeader]
    cases FrameHeader.ofBytes first second with
    | error violation => simp
    | ok header =>
      have := length_takeExtension { limit } header rest
      simp only [List.length_cons]
      omega

/-- So does a call that takes bytes off the buffer, whether or not it gives a frame. -/
theorem backlog_decode_lt_of_shorter {decoder : Decoder} {buffer : Bytes}
    (shorter : (decoder.decode buffer).rest.length < buffer.length) :
    (decoder.decode buffer).decoder.backlog (decoder.decode buffer).rest <
      decoder.backlog buffer := by
  simp only [backlog]
  by_cases start : decoder.stage = .start
  · have whole : decoder = { limit := decoder.limit } := by
      cases decoder
      simp_all
    rw [whole] at shorter ⊢
    have := length_rest_of_shorter decoder.limit buffer shorter
    simp only [if_true]
    split <;> omega
  · simp only [start, if_false]
    split <;> omega

/-- Decodes until a call gives no frame. -/
def drain (decoder : Decoder) (buffer : Bytes) : Drained :=
  go decoder buffer []
where
  /-- The list `done` holds the frames so far, last one first. -/
  go (decoder : Decoder) (buffer : Bytes) (done : List Frame) : Drained :=
    match decoded : decoder.decode buffer with
    | ⟨.ok (some frame), after, rest⟩ =>
      have : after.backlog rest < decoder.backlog buffer := by
        have := @backlog_decode_lt decoder buffer (by simp [decoded])
        rwa [decoded] at this
      go after rest (frame :: done)
    | ⟨.ok none, after, rest⟩ => ⟨done.reverse, none, after, rest⟩
    | ⟨.error violation, after, rest⟩ => ⟨done.reverse, some violation, after, rest⟩
  termination_by decoder.backlog buffer

end WebSocket.Decoder
