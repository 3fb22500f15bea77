import Mathlib.Logic.Function.Iterate
import WebSocket.Frame.Drain

/-! # Decoding in pieces

A buffer grows while it is being decoded, and a cut between two pieces can fall at any byte. A call
that gave something gives the same when more bytes follow (`decode_append`), and a call that gave
nothing leaves a decoder that goes on as if it had not been called (`decode_resume`). Hence what a
byte string holds does not depend on how it arrives (`foldl_feed_exhaust`): neither the frames and
violations nor the bytes and the stage that are left.
-/

namespace WebSocket

namespace Bytes

/-- Bytes behind a cut do not change it. -/
theorem cut?_append {count : Nat} {bytes front rest : Bytes} (more : Bytes)
    (cut : cut? count bytes = some (front, rest)) :
    cut? count (bytes ++ more) = some (front, rest ++ more) := by
  obtain ⟨size, rfl⟩ := cut?_eq_some_iff.mp cut
  exact cut?_eq_some_iff.mpr ⟨size, List.append_assoc ..⟩

theorem pos_of_cut?_eq_none {count : Nat} {bytes : Bytes} (short : cut? count bytes = none) :
    0 < count := by
  refine Nat.pos_of_ne_zero fun none => ?_
  have all : cut? 0 bytes = some ([], bytes) := cut?_eq_some_iff.mpr ⟨rfl, rfl⟩
  rw [none, all] at short
  cases short

end Bytes

/-- The same outcome with more bytes behind those that stay. -/
def Decoded.followedBy (decoded : Decoded) (more : Bytes) : Decoded :=
  { decoded with rest := decoded.rest ++ more }

/-- What a call gave, if it gave anything: a frame or a violation. -/
def Decoded.result? (decoded : Decoded) : Option (Except Violation Frame) :=
  match decoded.outcome with
  | .ok none => none
  | .ok (some frame) => some (.ok frame)
  | .error violation => some (.error violation)

theorem Decoded.result?_eq_none_iff {decoded : Decoded} :
    decoded.result? = none ↔ decoded.outcome = .ok none := by
  unfold result?
  split <;> simp [*]

namespace Decoder

/-! ## More bytes behind a call -/

section append

variable {decoder : Decoder} {header : FrameHeader} {key : Option MaskKey} {length : Nat}
  {buffer : Bytes} (more : Bytes)

theorem takePayload_append
    (given : (decoder.takePayload header key length buffer).outcome ≠ .ok none) :
    decoder.takePayload header key length (buffer ++ more) =
      (decoder.takePayload header key length buffer).followedBy more := by
  unfold takePayload at given ⊢
  cases cut : buffer.cut? length with
  | none => simp [cut] at given
  | some split => simp [Bytes.cut?_append more cut, Decoded.followedBy]

theorem takeExtension_append (given : (decoder.takeExtension header buffer).outcome ≠ .ok none) :
    decoder.takeExtension header (buffer ++ more) =
      (decoder.takeExtension header buffer).followedBy more := by
  unfold takeExtension at given ⊢
  cases cut : buffer.cut? (header.lengthBytes + header.keyBytes) with
  | none => simp [cut] at given
  | some split =>
    obtain ⟨extension, rest⟩ := split
    simp only [cut] at given
    simp only [Bytes.cut?_append more cut]
    split
    · simp [Decoded.followedBy]
    · next fits =>
      rw [if_neg fits] at given
      exact takePayload_append more given

theorem takeHeader_append (given : (decoder.takeHeader buffer).outcome ≠ .ok none) :
    decoder.takeHeader (buffer ++ more) = (decoder.takeHeader buffer).followedBy more := by
  match buffer with
  | [] | [_] => exact absurd rfl given
  | first :: second :: rest =>
    simp only [takeHeader, List.cons_append] at given ⊢
    cases read : FrameHeader.ofBytes first second with
    | error violation => rfl
    | ok header =>
      simp only [read] at given
      exact takeExtension_append more given

/-- A call that gives something gives the same when more bytes follow. -/
theorem decode_append (given : (decoder.decode buffer).outcome ≠ .ok none) :
    decoder.decode (buffer ++ more) = (decoder.decode buffer).followedBy more := by
  obtain ⟨limit, stage⟩ := decoder
  cases stage with
  | start => exact takeHeader_append more given
  | header header => exact takeExtension_append more given
  | payload header key length => exact takePayload_append more given

end append

/-! ## Going on after a call that gave nothing -/

section resume

variable {decoder : Decoder} {header : FrameHeader} {key : Option MaskKey} {length : Nat}
  {buffer : Bytes} (more : Bytes)

theorem takePayload_resume
    (waits : (decoder.takePayload header key length buffer).outcome = .ok none) :
    decoder.takePayload header key length (buffer ++ more) =
      (decoder.takePayload header key length buffer).decoder.decode
        ((decoder.takePayload header key length buffer).rest ++ more) := by
  cases cut : buffer.cut? length with
  | none =>
    have held : decoder.takePayload header key length buffer =
        ⟨.ok none, { decoder with stage := .payload header key length }, buffer⟩ := by
      simp only [takePayload, cut]
    rw [held]
    rfl
  | some split => simp [takePayload, cut] at waits

theorem takeExtension_resume (waits : (decoder.takeExtension header buffer).outcome = .ok none) :
    decoder.takeExtension header (buffer ++ more) =
      (decoder.takeExtension header buffer).decoder.decode
        ((decoder.takeExtension header buffer).rest ++ more) := by
  cases cut : buffer.cut? (header.lengthBytes + header.keyBytes) with
  | none =>
    have held : decoder.takeExtension header buffer =
        ⟨.ok none, { decoder with stage := .header header }, buffer⟩ := by
      simp only [takeExtension, cut]
    rw [held]
    rfl
  | some split =>
    obtain ⟨extension, rest⟩ := split
    unfold takeExtension at waits ⊢
    simp only [cut] at waits
    simp only [cut, Bytes.cut?_append more cut]
    split
    · next refused => simp [refused] at waits
    · next fits =>
      rw [if_neg fits] at waits
      exact takePayload_resume more waits

theorem takeHeader_resume (waits : (decoder.takeHeader buffer).outcome = .ok none) :
    decoder.takeHeader (buffer ++ more) =
      (decoder.takeHeader buffer).decoder.decode ((decoder.takeHeader buffer).rest ++ more) := by
  match buffer with
  | [] | [_] => rfl
  | first :: second :: rest =>
    simp only [takeHeader, List.cons_append] at waits ⊢
    cases read : FrameHeader.ofBytes first second with
    | error violation => simp [read] at waits
    | ok header =>
      simp only [read] at waits
      exact takeExtension_resume more waits

/-- After a call that gives nothing, decoding goes on as if that call had not been made. -/
theorem decode_resume (waits : (decoder.decode buffer).outcome = .ok none) :
    decoder.decode (buffer ++ more) =
      (decoder.decode buffer).decoder.decode ((decoder.decode buffer).rest ++ more) := by
  obtain ⟨limit, stage⟩ := decoder
  cases stage with
  | start => exact takeHeader_resume more waits
  | header header => exact takeExtension_resume more waits
  | payload header key length => exact takePayload_resume more waits

end resume

/-! ## Calls that change nothing -/

/-- Whether only a byte of the buffer leads out of the stage. -/
def IsHungry (decoder : Decoder) : Prop :=
  match decoder.stage with
  | .start => True
  | .header header => 0 < header.lengthBytes + header.keyBytes
  | .payload _ _ length => 0 < length

section hungry

variable {decoder : Decoder} {header : FrameHeader} {key : Option MaskKey} {length : Nat}
  {buffer : Bytes}

theorem isHungry_takePayload
    (waits : (decoder.takePayload header key length buffer).outcome = .ok none) :
    (decoder.takePayload header key length buffer).decoder.IsHungry := by
  cases cut : buffer.cut? length with
  | none =>
    simp only [takePayload, cut]
    exact Bytes.pos_of_cut?_eq_none cut
  | some split => simp [takePayload, cut] at waits

theorem isHungry_takeExtension (waits : (decoder.takeExtension header buffer).outcome = .ok none) :
    (decoder.takeExtension header buffer).decoder.IsHungry := by
  cases cut : buffer.cut? (header.lengthBytes + header.keyBytes) with
  | none =>
    simp only [takeExtension, cut]
    exact Bytes.pos_of_cut?_eq_none cut
  | some split =>
    unfold takeExtension at waits ⊢
    simp only [cut] at waits ⊢
    split
    · next refused => simp [refused] at waits
    · next fits =>
      rw [if_neg fits] at waits
      exact isHungry_takePayload waits

/-- A call that gives nothing stops where it needs more bytes. -/
theorem isHungry_decode (waits : (decoder.decode buffer).outcome = .ok none) :
    (decoder.decode buffer).decoder.IsHungry := by
  obtain ⟨limit, stage⟩ := decoder
  cases stage with
  | start =>
    match buffer with
    | [] | [_] => trivial
    | first :: second :: rest =>
      simp only [decode, takeHeader] at waits ⊢
      cases read : FrameHeader.ofBytes first second with
      | error violation => simp [read] at waits
      | ok header =>
        simp only [read] at waits ⊢
        exact isHungry_takeExtension waits
  | header header => exact isHungry_takeExtension waits
  | payload header key length => exact isHungry_takePayload waits

/-- A call that needs more bytes and takes none changes nothing. -/
theorem decode_of_isHungry (hungry : decoder.IsHungry)
    (waits : (decoder.decode buffer).outcome = .ok none)
    (whole : buffer.length ≤ (decoder.decode buffer).rest.length) :
    decoder.decode buffer = ⟨.ok none, decoder, buffer⟩ := by
  obtain ⟨limit, stage⟩ := decoder
  cases stage with
  | start =>
    match buffer with
    | [] | [_] => rfl
    | first :: second :: rest =>
      have taken : (decode { limit } (first :: second :: rest)).rest.length ≤ rest.length := by
        simp only [decode, takeHeader]
        split
        · exact Nat.le_refl _
        · exact length_takeExtension ..
      simp only [List.length_cons] at whole
      omega
  | header header =>
    simp only [decode] at waits whole ⊢
    cases cut : buffer.cut? (header.lengthBytes + header.keyBytes) with
    | none => simp only [takeExtension, cut]
    | some split =>
      obtain ⟨extension, rest⟩ := split
      obtain ⟨size, rfl⟩ := Bytes.cut?_eq_some_iff.mp cut
      simp only [takeExtension, cut] at waits whole
      split at waits
      · cases waits
      · next fits =>
        rw [if_neg fits] at whole
        have taken := length_takePayload { limit, stage := .header header } header
          (header.keyIn extension) (header.announced extension) rest
        have needed : 0 < extension.length := size ▸ hungry
        rw [List.length_append] at whole
        omega
  | payload header key length =>
    simp only [decode] at waits ⊢
    cases cut : buffer.cut? length with
    | none => simp only [takePayload, cut]
    | some split => simp [takePayload, cut] at waits

end hungry

/-! ## All that a buffer holds -/

/-- What a buffer held, frames and violations in their order; the decoder afterwards; and the bytes
that are left. -/
structure Exhausted where
  results : List (Except Violation Frame) := []
  decoder : Decoder
  rest : Bytes := []

/-- Decodes again and again, past violations, until a call gives nothing. -/
def exhaust (decoder : Decoder) (buffer : Bytes) : Exhausted :=
  match _given : (decoder.decode buffer).result? with
  | none => ⟨[], (decoder.decode buffer).decoder, (decoder.decode buffer).rest⟩
  | some result =>
    let later := (decoder.decode buffer).decoder.exhaust (decoder.decode buffer).rest
    { later with results := result :: later.results }
termination_by decoder.backlog buffer
decreasing_by exact backlog_decode_lt (Decoded.result?_eq_none_iff.not.mp (by simp [_given]))

theorem exhaust_eq (decoder : Decoder) (buffer : Bytes) :
    decoder.exhaust buffer =
      match (decoder.decode buffer).result? with
      | none => ⟨[], (decoder.decode buffer).decoder, (decoder.decode buffer).rest⟩
      | some result =>
        let later := (decoder.decode buffer).decoder.exhaust (decoder.decode buffer).rest
        { later with results := result :: later.results } := by
  rw [exhaust]
  split <;> simp [*]

/-- After a call that gave nothing, the rest is decoded as if that call had not been made. -/
theorem exhaust_append_of_waits {decoder : Decoder} {buffer : Bytes}
    (waits : (decoder.decode buffer).outcome = .ok none) (more : Bytes) :
    decoder.exhaust (buffer ++ more) =
      (decoder.decode buffer).decoder.exhaust ((decoder.decode buffer).rest ++ more) := by
  rw [exhaust_eq decoder, decode_resume more waits, ← exhaust_eq]

/-- What a call gave comes first, whatever follows. -/
theorem exhaust_append_of_result {decoder : Decoder} {buffer : Bytes}
    {result : Except Violation Frame} (given : (decoder.decode buffer).result? = some result)
    (more : Bytes) :
    decoder.exhaust (buffer ++ more) =
      let later := (decoder.decode buffer).decoder.exhaust ((decoder.decode buffer).rest ++ more)
      { later with results := result :: later.results } := by
  have same : decoder.decode (buffer ++ more) = (decoder.decode buffer).followedBy more :=
    decode_append more (Decoded.result?_eq_none_iff.not.mp (by simp [given]))
  have gives : (decoder.decode (buffer ++ more)).result? = some result := by
    rw [same]
    exact given
  rw [exhaust_eq decoder, gives, same]
  rfl

/-- Appends a piece to what is left and decodes as far as that goes. -/
def Exhausted.feed (exhausted : Exhausted) (piece : Bytes) : Exhausted :=
  let next := exhausted.decoder.exhaust (exhausted.rest ++ piece)
  { next with results := exhausted.results ++ next.results }

/-- Decoding a piece after a buffer comes to the same as decoding both at once. -/
theorem feed_exhaust (decoder : Decoder) (buffer piece : Bytes) :
    (decoder.exhaust buffer).feed piece = decoder.exhaust (buffer ++ piece) := by
  fun_induction exhaust decoder buffer with
  | case1 decoder buffer given =>
    rw [exhaust_append_of_waits (Decoded.result?_eq_none_iff.mp given)]
    rfl
  | case2 decoder buffer result given later ih =>
    rw [exhaust_append_of_result given]
    dsimp only
    rw [← ih]
    rfl

/-- However a byte string is cut into pieces, decoding after each of them comes to the same as
decoding all of it at once. -/
theorem foldl_feed_exhaust (decoder : Decoder) (buffer : Bytes) (pieces : List Bytes) :
    pieces.foldl Exhausted.feed (decoder.exhaust buffer) =
      decoder.exhaust (buffer ++ pieces.flatten) := by
  induction pieces generalizing buffer with
  | nil => simp
  | cons piece pieces ih =>
    rw [List.foldl_cons, feed_exhaust, ih, List.flatten_cons, List.append_assoc]

/-! ## Decoding ends -/

/-- The decoder and the buffer after one more call. -/
def call (held : Decoder × Bytes) : Decoder × Bytes :=
  ((held.1.decode held.2).decoder, (held.1.decode held.2).rest)

/-- Each result takes one call, and the call after the last result gives nothing. -/
theorem outcome_after_results (decoder : Decoder) (buffer : Bytes) :
    let last := call^[(decoder.exhaust buffer).results.length] (decoder, buffer)
    (last.1.decode last.2).outcome = .ok none := by
  fun_induction exhaust decoder buffer with
  | case1 decoder buffer given => exact Decoded.result?_eq_none_iff.mp given
  | case2 decoder buffer result given later ih => exact ih

/-- A call that gives something goes back to the start of a frame or takes bytes off the buffer, so
there are at most as many results as bytes, and one more when a frame was begun before. -/
theorem length_results_le (decoder : Decoder) (buffer : Bytes) :
    (decoder.exhaust buffer).results.length ≤ decoder.backlog buffer := by
  fun_induction exhaust decoder buffer with
  | case1 decoder buffer given => exact Nat.zero_le _
  | case2 decoder buffer result given later ih =>
    have gives : (decoder.decode buffer).result? ≠ none := by simp [given]
    exact Nat.lt_of_le_of_lt ih (backlog_decode_lt (Decoded.result?_eq_none_iff.not.mp gives))

/-- A byte string holds the same frames and violations and leaves the same stage and the same bytes
however it is cut into pieces, and decoding ends at every stage and on every buffer. -/
theorem foldl_feed_eq_exhaust (limit : Nat) (pieces : List Bytes) :
    pieces.foldl Exhausted.feed { decoder := { limit } } =
        ({ limit } : Decoder).exhaust pieces.flatten ∧
      ∀ (decoder : Decoder) (buffer : Bytes), ∃ calls ≤ decoder.backlog buffer,
        let last := call^[calls] (decoder, buffer)
        (last.1.decode last.2).outcome = .ok none ∧
          (decoder.exhaust buffer).results.length = calls := by
  have fresh : ({ limit } : Decoder).exhaust [] = { decoder := { limit } } := by
    rw [exhaust_eq]
    rfl
  refine ⟨?_, fun decoder buffer => ?_⟩
  · rw [← fresh, foldl_feed_exhaust, List.nil_append]
  · exact ⟨_, length_results_le decoder buffer, outcome_after_results decoder buffer, rfl⟩

/-- Refusing a masked frame beyond the limit, whose header was taken before, takes no byte. -/
example :
    (decode ⟨1, .header ⟨true, .binary, true, 5⟩⟩ [1, 2, 3, 4]).outcome = .error .tooLarge ∧
      (decode ⟨1, .header ⟨true, .binary, true, 5⟩⟩ [1, 2, 3, 4]).rest = [1, 2, 3, 4] :=
  ⟨rfl, rfl⟩

end Decoder

end WebSocket
