import WebSocket.Proofs.Frame.Grammar
import WebSocket.Proofs.Frame.History

/-! # The end of the stream

When the stream has ended, a decoder is called until it gives no frame (`Decoder.drainEnd`). That
gives the frames that are complete, up to the first violation, just as decoding alone would
(`Decoder.drainEnd_eq`); a frame that was cut short goes, whether its bytes are in the buffer, in
the stage or in both, and the decoder is as good as new. So a stream may break off inside a frame
without any harm to the frames before it (`Decoder.drops_truncated_tail`).
-/

namespace WebSocket

/-- The frames in front of the first violation, and that violation. -/
def upToFault : List (Except Violation Frame) → List Frame × Option Violation
  | [] => ([], none)
  | .error violation :: _ => ([], some violation)
  | .ok frame :: later => (frame :: (upToFault later).1, (upToFault later).2)

/-- Without a violation in front, the frames there come first. -/
theorem upToFault_append {front : List (Except Violation Frame)}
    (sound : ∀ violation, .error violation ∉ front) (back : List (Except Violation Frame)) :
    upToFault (front ++ back) =
      (front.filterMap Except.toOption ++ (upToFault back).1, (upToFault back).2) := by
  induction front with
  | nil => rfl
  | cons result front ih =>
    have later := ih fun violation member => sound violation (List.mem_cons_of_mem _ member)
    cases result with
    | error violation => exact absurd (List.mem_cons_self ..) (sound violation)
    | ok frame => simp [upToFault, later, Except.toOption]

theorem upToFault_map_ok (frames : List Frame) :
    upToFault (frames.map .ok) = (frames, none) := by
  induction frames with
  | nil => rfl
  | cons frame frames ih => rw [List.map_cons, upToFault, ih]

namespace Decoder

/-! ## Draining -/

/-- Draining gives what decoding past violations gives first. -/
theorem drain_eq (decoder : Decoder) (buffer : Bytes) :
    ((decoder.drain buffer).frames, (decoder.drain buffer).fault) =
      upToFault (decoder.exhaust buffer).results := by
  have general (done : List Frame) :
      ((drain.go decoder buffer done).frames, (drain.go decoder buffer done).fault) =
        (done.reverse ++ (upToFault (decoder.exhaust buffer).results).1,
          (upToFault (decoder.exhaust buffer).results).2) := by
    fun_induction drain.go decoder buffer done with
    | case1 decoder buffer done frame after rest decoded _ ih =>
      rw [ih, exhaust_eq decoder buffer, decoded]
      simp [Decoded.result?, upToFault]
    | case2 decoder buffer done after rest decoded =>
      rw [exhaust_eq, decoded]
      simp [Decoded.result?, upToFault]
    | case3 decoder buffer done violation after rest decoded =>
      rw [exhaust_eq, decoded]
      simp [Decoded.result?, upToFault]
  exact general []

/-- What is given at the end of the stream would have been given before it. -/
theorem decode_of_decodeEnd {decoder : Decoder} {buffer : Bytes} {decoded : Decoded}
    (called : decoder.decodeEnd buffer = decoded) (given : decoded.outcome ≠ .ok none) :
    decoder.decode buffer = decoded := by
  by_cases waits : (decoder.decode buffer).outcome = .ok none
  · rw [decodeEnd_of_waits waits] at called
    subst called
    exact absurd rfl given
  · rw [← called, decodeEnd_of_given waits]

/-- Decodes at the end of the stream until a call gives no frame. -/
def drainEnd (decoder : Decoder) (buffer : Bytes) : Drained :=
  match _called : decoder.decodeEnd buffer with
  | ⟨.ok none, after, rest⟩ => ⟨[], none, after, rest⟩
  | ⟨.error violation, after, rest⟩ => ⟨[], some violation, after, rest⟩
  | ⟨.ok (some frame), after, rest⟩ =>
    let later := after.drainEnd rest
    { later with frames := frame :: later.frames }
termination_by decoder.backlog buffer
decreasing_by
  have decoded := decode_of_decodeEnd _called nofun
  have shorter := @backlog_decode_lt decoder buffer (by simp [decoded])
  rwa [decoded] at shorter

/-- The end of the stream takes nothing from the frames that are complete and adds no violation.
Unless there is one, it leaves a fresh decoder and an empty buffer. -/
theorem drainEnd_eq (decoder : Decoder) (buffer : Bytes) :
    ((decoder.drainEnd buffer).frames, (decoder.drainEnd buffer).fault) =
        upToFault (decoder.exhaust buffer).results ∧
      ((decoder.drainEnd buffer).fault = none →
        (decoder.drainEnd buffer).decoder = { limit := decoder.limit } ∧
          (decoder.drainEnd buffer).rest = []) := by
  fun_induction drainEnd decoder buffer with
  | case1 decoder buffer after rest called =>
    have waits : (decoder.decode buffer).outcome = .ok none := by
      by_contra given
      rw [decodeEnd_of_given given] at called
      exact given (congrArg Decoded.outcome called)
    rw [decodeEnd_of_waits waits] at called
    cases called
    rw [exhaust_eq, Decoded.result?_eq_none_iff.mpr waits]
    exact ⟨rfl, fun _ => ⟨rfl, rfl⟩⟩
  | case2 decoder buffer violation after rest called =>
    rw [exhaust_eq, decode_of_decodeEnd called nofun]
    exact ⟨rfl, nofun⟩
  | case3 decoder buffer frame after rest called later ih =>
    obtain ⟨given, fresh⟩ := ih
    have limit := limit_decodeEnd decoder buffer
    rw [called] at limit
    dsimp only at limit
    rw [exhaust_eq, decode_of_decodeEnd called nofun]
    simp only [Decoded.result?, upToFault, ← given]
    exact ⟨rfl, limit ▸ fresh⟩

/-! ## Streams that break off -/

/-- What may stand behind the last complete frame of a stream: nothing, or the beginning of a frame
that a decoder with a given limit would take. -/
def IsCutShort (limit : Nat) (tail : Bytes) : Prop :=
  tail = [] ∨ ∃ frame missing, missing ≠ [] ∧ Frame.IsWire limit frame (tail ++ missing)

/-- The beginning of a frame gives nothing yet. -/
theorem IsCutShort.waits {limit : Nat} {tail : Bytes} (cut : IsCutShort limit tail) :
    (({ limit } : Decoder).decode tail).outcome = .ok none := by
  obtain rfl | ⟨frame, missing, more, isWire⟩ := cut
  · rfl
  · -- Had anything been given, the missing bytes would be left over from the whole frame.
    by_contra given
    have whole := decode_of_isWire isWire []
    rw [List.append_nil, decode_append missing given] at whole
    have rest := congrArg Decoded.rest whole
    exact more (List.append_eq_nil_iff.mp rest).2

/-- Frames that travel one after the other come out in their order, whatever follows them. -/
theorem exhaust_wires_append {limit : Nat} {frames : List (Frame × Bytes)}
    (wires : ∀ entry ∈ frames, Frame.IsWire limit entry.1 entry.2) (rest : Bytes) :
    ({ limit } : Decoder).exhaust (frames.flatMap (·.2) ++ rest) =
      let later := ({ limit } : Decoder).exhaust rest
      { later with results := frames.map (fun entry => .ok entry.1) ++ later.results } := by
  induction frames with
  | nil => rfl
  | cons entry frames ih =>
    have decoded := decode_of_isWire (wires entry (List.mem_cons_self ..))
      (frames.flatMap (·.2) ++ rest)
    rw [List.flatMap_cons, List.append_assoc, exhaust_eq, decoded]
    simp only [Decoded.result?]
    rw [ih fun other member => wires other (List.mem_cons_of_mem _ member)]
    rfl

/-- At the end of a stream only a frame that was cut short is dropped. However the bytes were cut
into pieces and whatever calls were made in between, as long as none of them failed: what these
calls gave and what is given at the end are the frames and the first violation of all the bytes,
and without a violation the decoder and its buffer are as good as new. For complete frames with the
beginning of a frame behind them no call fails, and exactly the complete frames are given. -/
theorem drops_truncated_tail (limit : Nat) {uses : List DecoderUse}
    (unended : .decodeEnd ∉ uses) :
    let history := uses.foldl History.use { decoder := { limit } }
    let ended := history.decoder.drainEnd history.buffer
    ((∀ violation, .error violation ∉ history.results) →
      (history.results.filterMap Except.toOption ++ ended.frames, ended.fault) =
          ((({ limit } : Decoder).drain (uses.flatMap DecoderUse.bytes)).frames,
            (({ limit } : Decoder).drain (uses.flatMap DecoderUse.bytes)).fault) ∧
        (ended.fault = none → ended.decoder = { limit } ∧ ended.rest = [])) ∧
    ∀ (frames : List (Frame × Bytes)) (tail : Bytes),
      (∀ entry ∈ frames, Frame.IsWire limit entry.1 entry.2) → IsCutShort limit tail →
      uses.flatMap DecoderUse.bytes = frames.flatMap (·.2) ++ tail →
        (∀ violation, .error violation ∉ history.results) ∧
          history.results.filterMap Except.toOption ++ ended.frames = frames.map (·.1) ∧
          ended.fault = none ∧ ended.decoder = { limit } ∧ ended.rest = [] := by
  intro history ended
  obtain ⟨given, fresh⟩ := drainEnd_eq history.decoder history.buffer
  rw [(History.isLegal_foldl limit uses).limit_eq] at fresh
  have whole := congrArg Exhausted.results
    (History.outlook_foldl { decoder := { limit } } unended [])
  simp only [History.outlook, List.append_nil, List.nil_append] at whole
  have told (sound : ∀ violation, .error violation ∉ history.results) :
      (history.results.filterMap Except.toOption ++ ended.frames, ended.fault) =
        upToFault (({ limit } : Decoder).exhaust (uses.flatMap DecoderUse.bytes)).results := by
    rw [← whole, upToFault_append sound, ← given]
  refine ⟨fun sound => ⟨by rw [told sound, drain_eq], fresh⟩, ?_⟩
  intro frames tail wires cut arrived
  have nothing : (({ limit } : Decoder).exhaust tail).results = [] := by
    rw [exhaust_eq, Decoded.result?_eq_none_iff.mpr cut.waits]
  have complete : (({ limit } : Decoder).exhaust (uses.flatMap DecoderUse.bytes)).results =
      (frames.map (·.1)).map .ok := by
    rw [arrived, exhaust_wires_append wires]
    simp [nothing]
  have sound (violation : Violation) : .error violation ∉ history.results := by
    intro member
    have among := List.mem_append_left (history.decoder.exhaust history.buffer).results member
    rw [whole, complete] at among
    simp at among
  have ends := told sound
  rw [complete, upToFault_map_ok] at ends
  obtain ⟨all, none⟩ := Prod.mk.inj ends
  exact ⟨sound, all, none, fresh none⟩

/-- A text that comes in two pieces, and a masked frame that breaks off inside its key after its
header was taken. -/
def cutInsideKey : List DecoderUse :=
  [.append [0x81], .decode, .append [0x01, 0x61, 0x82, 0x85], .decode, .decode, .append [1, 2],
    .decode]

theorem drops_truncated_tail_of_cut_key :
    .decodeEnd ∉ cutInsideKey ∧
    (∀ entry ∈ [(Frame.text [0x61], [0x81, 0x01, 0x61])], Frame.IsWire 9 entry.1 entry.2) ∧
    IsCutShort 9 [0x82, 0x85, 1, 2] ∧
    cutInsideKey.flatMap DecoderUse.bytes = [0x81, 0x01, 0x61] ++ [0x82, 0x85, 1, 2] ∧
    let history := cutInsideKey.foldl History.use { decoder := { limit := 9 } }
    let ended := history.decoder.drainEnd history.buffer
    (∀ violation, .error violation ∉ history.results) ∧
      history.results.filterMap Except.toOption ++ ended.frames = [Frame.text [0x61]] ∧
      ended.fault = none ∧ ended.decoder = { limit := 9 } ∧ ended.rest = [] := by
  have unended : .decodeEnd ∉ cutInsideKey := by decide
  have text : Frame.IsWire 9 (.text [0x61]) [0x81, 0x01, 0x61] :=
    @Frame.IsWire.intro 9 ⟨true, .text, false, 1⟩ nofun [] [0x61] (.tiny (by decide)) (by decide)
      none rfl
  have wires : ∀ entry ∈ [(Frame.text [0x61], [0x81, 0x01, 0x61])],
      Frame.IsWire 9 entry.1 entry.2 := by
    intro entry member
    rw [List.mem_singleton.mp member]
    exact text
  have binary := @Frame.IsWire.intro 9 ⟨true, .binary, true, 5⟩ nofun [] [1, 2, 3, 4, 5]
    (.tiny (by decide)) (by decide) (some ⟨1, 2, 3, 4⟩) rfl
  have cut : IsCutShort 9 [0x82, 0x85, 1, 2] :=
    .inr ⟨_, [3, 4, 0, 0, 0, 0, 4], by decide, binary⟩
  exact ⟨unended, wires, cut, rfl,
    (drops_truncated_tail 9 unended).2 [(.text [0x61], [0x81, 0x01, 0x61])] [0x82, 0x85, 1, 2] wires
      cut rfl⟩

end Decoder

end WebSocket
