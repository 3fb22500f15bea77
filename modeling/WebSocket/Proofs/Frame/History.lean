import WebSocket.Proofs.Frame.Legality

/-! # Histories of a decoder

What is done with a decoder over its life: bytes are appended to its buffer, it is called, and it is
called once more when the stream has ended, in any order and also after violations. The framing
rules hold throughout (`History.isLegal_foldl`). As long as the stream has not ended, calls change
nothing of what the bytes hold: it is what was given so far and then what the decoder finds in its
buffer, as if all bytes had come at once (`History.outlook_foldl`).
-/

namespace WebSocket

namespace Decoder

variable {decoder : Decoder} {buffer : Bytes}

/-- At the end of the stream, a call that finds no frame drops what is there. -/
theorem decodeEnd_of_waits (waits : (decoder.decode buffer).outcome = .ok none) :
    decoder.decodeEnd buffer = ⟨.ok none, { limit := decoder.limit }, []⟩ := by
  have limit := limit_decode decoder buffer
  unfold decodeEnd
  generalize decoder.decode buffer = decoded at waits limit ⊢
  obtain ⟨outcome, after, rest⟩ := decoded
  subst waits
  rw [← limit]

/-- Otherwise it makes no difference whether the stream has ended. -/
theorem decodeEnd_of_given (given : (decoder.decode buffer).outcome ≠ .ok none) :
    decoder.decodeEnd buffer = decoder.decode buffer := by
  unfold decodeEnd
  split
  · next waits => exact absurd (congrArg Decoded.outcome waits) given
  · rfl

@[simp] theorem limit_decodeEnd (decoder : Decoder) (buffer : Bytes) :
    (decoder.decodeEnd buffer).decoder.limit = decoder.limit := by
  by_cases waits : (decoder.decode buffer).outcome = .ok none
  · rw [decodeEnd_of_waits waits]
  · rw [decodeEnd_of_given waits, limit_decode]

end Decoder

/-! ## Uses -/

/-- One use of a decoder with its buffer. -/
inductive DecoderUse where
  | append (bytes : Bytes)
  | decode
  /-- A call when the stream has ended. -/
  | decodeEnd
deriving DecidableEq, Repr

/-- The bytes that a use adds to the buffer. -/
def DecoderUse.bytes : DecoderUse → Bytes
  | append bytes => bytes
  | decode | decodeEnd => []

/-- A decoder in use: the frames and violations that it gave so far, where it stands, and what its
buffer holds. -/
structure History (δ : Type) where
  results : List (Except Violation Frame) := []
  decoder : δ
  buffer : Bytes := []

namespace History

/-- After a call, which gave something or nothing. -/
def called {δ : Type} (history : History δ) (result : Option (Except Violation Frame)) (decoder : δ)
    (buffer : Bytes) : History δ :=
  ⟨history.results ++ result.toList, decoder, buffer⟩

def use (history : History Decoder) : DecoderUse → History Decoder
  | .append bytes => { history with buffer := history.buffer ++ bytes }
  | .decode =>
    let decoded := history.decoder.decode history.buffer
    history.called decoded.result? decoded.decoder decoded.rest
  | .decodeEnd =>
    let decoded := history.decoder.decodeEnd history.buffer
    history.called decoded.result? decoded.decoder decoded.rest

variable {history : History Decoder}

/-! ## The framing rules -/

/-- The decoder keeps its limit and what may be kept, and the frames that it gave obey the rules. -/
structure IsLegal (limit : Nat) (history : History Decoder) : Prop where
  limit_eq : history.decoder.limit = limit
  stage : history.decoder.stage.IsLegal limit
  frames : ∀ frame, .ok frame ∈ history.results → frame.IsLegal limit

theorem IsLegal.called {limit : Nat} (legal : history.IsLegal limit) {decoded : Decoded}
    (same : decoded.decoder.limit = limit) (lawful : decoded.IsLegal limit) :
    (history.called decoded.result? decoded.decoder decoded.rest).IsLegal limit := by
  refine ⟨same, lawful.stage, fun frame member => ?_⟩
  rcases List.mem_append.mp member with before | given
  · exact legal.frames frame before
  · refine lawful.frame frame ?_
    unfold Decoded.result? at given
    split at given <;> simp_all

theorem IsLegal.use {limit : Nat} (legal : history.IsLegal limit) (use : DecoderUse) :
    (history.use use).IsLegal limit := by
  obtain ⟨results, decoder, buffer⟩ := history
  obtain ⟨rfl, stage, frames⟩ := legal
  have lawful := Decoder.decode_legal stage buffer
  cases use with
  | append bytes => exact ⟨rfl, stage, frames⟩
  | decode => exact IsLegal.called ⟨rfl, stage, frames⟩ (Decoder.limit_decode ..) lawful
  | decodeEnd =>
    refine IsLegal.called ⟨rfl, stage, frames⟩ (Decoder.limit_decodeEnd ..) ?_
    by_cases waits : (decoder.decode buffer).outcome = .ok none
    · rw [Decoder.decodeEnd_of_waits waits]
      exact ⟨trivial, nofun⟩
    · rw [Decoder.decodeEnd_of_given waits]
      exact lawful

/-- Whatever is done with a decoder, it keeps to the framing rules. -/
theorem isLegal_foldl (limit : Nat) (uses : List DecoderUse) :
    (uses.foldl History.use { decoder := { limit } }).IsLegal limit := by
  have run (history : History Decoder) (legal : history.IsLegal limit) :
      (uses.foldl History.use history).IsLegal limit := by
    induction uses generalizing history with
    | nil => exact legal
    | cons use uses ih => exact ih _ (legal.use use)
  exact run _ ⟨rfl, trivial, nofun⟩

/-! ## What is still to come -/

/-- All that the decoder gave, and that it will give when some more bytes follow. -/
def outlook (history : History Decoder) (more : Bytes) : Decoder.Exhausted :=
  let later := history.decoder.exhaust (history.buffer ++ more)
  { later with results := history.results ++ later.results }

/-- Before the end of the stream, no use changes what is to come of all bytes. -/
theorem outlook_use {use : DecoderUse} (unended : use ≠ .decodeEnd) (more : Bytes) :
    (history.use use).outlook more = history.outlook (use.bytes ++ more) := by
  obtain ⟨results, decoder, buffer⟩ := history
  cases use with
  | append bytes => simp only [History.use, outlook, DecoderUse.bytes, List.append_assoc]
  | decode =>
    simp only [History.use, History.called, outlook, DecoderUse.bytes, List.nil_append]
    cases given : (decoder.decode buffer).result? with
    | none =>
      rw [Decoder.exhaust_append_of_waits (Decoded.result?_eq_none_iff.mp given)]
      simp
    | some result =>
      rw [Decoder.exhaust_append_of_result given]
      simp
  | decodeEnd => exact absurd rfl unended

theorem outlook_foldl (history : History Decoder) {uses : List DecoderUse}
    (unended : .decodeEnd ∉ uses) (more : Bytes) :
    (uses.foldl History.use history).outlook more =
      history.outlook (uses.flatMap DecoderUse.bytes ++ more) := by
  induction uses generalizing history with
  | nil => rfl
  | cons use uses ih =>
    rw [List.mem_cons, not_or] at unended
    rw [List.foldl_cons, ih _ unended.2, outlook_use (Ne.symm unended.1), List.flatMap_cons,
      List.append_assoc]

end History

end WebSocket
