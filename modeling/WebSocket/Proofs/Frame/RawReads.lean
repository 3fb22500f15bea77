import WebSocket.Proofs.Frame.Grammar
import WebSocket.Proofs.Frame.History

/-! # Raw reads

A decoder that looks at the size of its buffer once for each part of a frame and then reads without
looking again. What it has to trust was kept by an earlier call: how many bytes of length and key
are still to come, and how long the payload is. A read that runs past the buffer has no result here
(`none`). The count that is kept always agrees with the length code and the mask bit by which the
reads go (`RawHeader.IsLawful`), so every read finds its bytes, whatever was appended and called
before, and raw reads give what cautious ones give (`RawDecoder.reads_lawful`).
-/

namespace WebSocket

/-- Takes one byte off the buffer. -/
def Bytes.next? : Bytes → Option (UInt8 × Bytes)
  | [] => none
  | byte :: rest => some (byte, rest)

/-! ## What is kept between two calls -/

/-- A header with its reserved bits, and with the number of bytes that its extension takes. -/
structure RawHeader extends FrameHeader where
  rsv1 : Bool
  rsv2 : Bool
  rsv3 : Bool
  remaining : Nat

/-- How far the frame at hand has been read. -/
inductive RawStage where
  | start
  | header (header : RawHeader)
  | payload (header : RawHeader) (key : Option MaskKey) (length : Nat)

structure RawDecoder where
  limit : Nat
  stage : RawStage := .start

/-- The outcome of one call, the decoder after it, and the bytes that stay in the buffer. -/
structure RawDecoded where
  outcome : Except Violation (Option Frame)
  decoder : RawDecoder
  rest : Bytes

/-! ## Reading -/

namespace RawHeader

def ofBytes (first second : UInt8) : Except Violation RawHeader :=
  (FrameHeader.ofBytes first second).map fun header =>
    { header with
      rsv1 := first &&& 0x40 ≠ 0
      rsv2 := first &&& 0x20 ≠ 0
      rsv3 := first &&& 0x10 ≠ 0
      remaining :=
        (if header.lengthCode = 126 then 2 else if header.lengthCode = 127 then 8 else 0) +
          if header.masked then 4 else 0 }

variable (header : RawHeader)

/-- Reads a number of the width that the length code asks for. -/
def readLength? (buffer : Bytes) : Option (Nat × Bytes) :=
  if header.lengthCode = 126 then
    (buffer.cut? 2).map fun (extended, rest) => (Bytes.readBe extended, rest)
  else if header.lengthCode = 127 then
    (buffer.cut? 8).map fun (extended, rest) => (Bytes.readBe extended, rest)
  else some (header.lengthCode.toNat, buffer)

/-- Reads the key of a masked frame. -/
def readKey? (buffer : Bytes) : Option (Option MaskKey × Bytes) :=
  if header.masked then (buffer.cut? 4).map fun (key, rest) => (MaskKey.ofBytes? key, rest)
  else some (none, buffer)

/-- The frame with a payload that was read. -/
def frame (key : Option MaskKey) (covered : Bytes) : Frame where
  fin := header.fin
  rsv1 := header.rsv1
  rsv2 := header.rsv2
  rsv3 := header.rsv3
  opcode := header.opcode
  mask := key
  payload := match key with
    | some key => key.apply .littleEndian covered
    | none => covered

end RawHeader

namespace RawDecoder

variable (decoder : RawDecoder)

def readPayload? (header : RawHeader) (key : Option MaskKey) (length : Nat) (buffer : Bytes) :
    Option RawDecoded :=
  if buffer.length < length then
    some ⟨.ok none, { decoder with stage := .payload header key length }, buffer⟩
  else do
    let (covered, rest) ← buffer.cut? length
    some ⟨.ok (some (header.frame key covered)), { decoder with stage := .start }, rest⟩

def readExtension? (header : RawHeader) (buffer : Bytes) : Option RawDecoded :=
  if buffer.length < header.remaining then
    some ⟨.ok none, { decoder with stage := .header header }, buffer⟩
  else do
    let (length, rest) ← header.readLength? buffer
    if Frame.maxPayload < length ∨ decoder.limit ≤ length then
      some ⟨.error .tooLarge, { decoder with stage := .start }, rest⟩
    else do
      let (key, rest) ← header.readKey? rest
      decoder.readPayload? header key length rest

def readHeader? (buffer : Bytes) : Option RawDecoded :=
  if buffer.length < 2 then some ⟨.ok none, { decoder with stage := .start }, buffer⟩
  else do
    let (first, rest) ← buffer.next?
    let (second, rest) ← rest.next?
    match RawHeader.ofBytes first second with
    | .error violation => some ⟨.error violation, { decoder with stage := .start }, rest⟩
    | .ok header => decoder.readExtension? header rest

/-- One call, unless a read in it runs past the buffer. -/
def decode? (buffer : Bytes) : Option RawDecoded :=
  match decoder.stage with
  | .start => decoder.readHeader? buffer
  | .header header => decoder.readExtension? header buffer
  | .payload header key length => decoder.readPayload? header key length buffer

/-- One call at the end of the stream. -/
def decodeEnd? (buffer : Bytes) : Option RawDecoded := do
  let decoded ← decoder.decode? buffer
  match decoded.outcome with
  | .ok none => some ⟨.ok none, { decoded.decoder with stage := .start }, []⟩
  | _ => some decoded

end RawDecoder

/-! ## The cautious decoder behind a raw one -/

def RawStage.cautious : RawStage → DecoderStage
  | .start => .start
  | .header head => .header head.toFrameHeader
  | .payload head key length => .payload head.toFrameHeader key length

def RawDecoder.cautious (decoder : RawDecoder) : Decoder where
  limit := decoder.limit
  stage := decoder.stage.cautious

def RawDecoded.cautious (decoded : RawDecoded) : Decoded where
  outcome := decoded.outcome
  decoder := decoded.decoder.cautious
  rest := decoded.rest

/-- One more use, unless a read in it runs past the buffer. -/
def History.use? (history : History RawDecoder) : DecoderUse → Option (History RawDecoder)
  | .append bytes => some { history with buffer := history.buffer ++ bytes }
  | .decode => do
    let decoded ← history.decoder.decode? history.buffer
    some (history.called decoded.cautious.result? decoded.decoder decoded.rest)
  | .decodeEnd => do
    let decoded ← history.decoder.decodeEnd? history.buffer
    some (history.called decoded.cautious.result? decoded.decoder decoded.rest)

def History.cautious (history : History RawDecoder) : History Decoder where
  results := history.results
  decoder := history.decoder.cautious
  buffer := history.buffer

/-! ## What the reads can rely on -/

/-- A header is kept with clear reserved bits, and with as many bytes to be read as its length code
and its mask bit say. -/
structure RawHeader.IsLawful (header : RawHeader) : Prop where
  rsv1 : header.rsv1 = false
  rsv2 : header.rsv2 = false
  rsv3 : header.rsv3 = false
  legal : header.toFrameHeader.IsLegal
  remaining : header.remaining =
    (if header.lengthCode = 126 then 2 else if header.lengthCode = 127 then 8 else 0) +
      if header.masked then 4 else 0

/-- A payload is awaited only when its length is below the limit. -/
def RawStage.IsLawful (limit : Nat) : RawStage → Prop
  | .start => True
  | .header head => head.IsLawful
  | .payload head _ length =>
    head.IsLawful ∧ length < limit ∧ length ≤ Frame.maxPayload ∧
      (head.opcode.isControl = true → length ≤ maxControlPayload)

namespace RawHeader

theorem clear_of_ofBytes {first second : UInt8} {header : FrameHeader}
    (read : FrameHeader.ofBytes first second = .ok header) : first &&& 0x70 = 0 := by
  unfold FrameHeader.ofBytes at read
  split at read
  · cases read
  · next clear => exact not_not.mp clear

/-- Two bytes are read to a lawful header or refused, as a cautious decoder does it. -/
theorem ofBytes_lawful (first second : UInt8) :
    (∃ violation, ofBytes first second = .error violation ∧
      FrameHeader.ofBytes first second = .error violation) ∨
    ∃ header : RawHeader, ofBytes first second = .ok header ∧
      FrameHeader.ofBytes first second = .ok header.toFrameHeader ∧ header.IsLawful := by
  unfold ofBytes
  cases read : FrameHeader.ofBytes first second with
  | error violation => exact .inl ⟨violation, rfl, rfl⟩
  | ok header =>
    have clear := clear_of_ofBytes read
    have bit (mask : UInt8) (inside : 0x70 &&& mask = mask) : first &&& mask = 0 := by
      rw [← inside, ← UInt8.and_assoc, clear, UInt8.zero_and]
    refine .inr ⟨_, rfl, rfl, ?_⟩
    exact {
      rsv1 := decide_eq_false (not_not.mpr (bit 0x40 rfl))
      rsv2 := decide_eq_false (not_not.mpr (bit 0x20 rfl))
      rsv3 := decide_eq_false (not_not.mpr (bit 0x10 rfl))
      legal := FrameHeader.isLegal_of_ofBytes read
      remaining := rfl }

variable {header : RawHeader}

theorem IsLawful.remaining_eq (lawful : header.IsLawful) :
    header.remaining = header.lengthBytes + header.keyBytes := lawful.remaining

/-- The length is read where its bytes are there, and it is the one that the header announces. -/
theorem readLength?_append {extended : Bytes} (size : extended.length = header.lengthBytes)
    (key rest : Bytes) :
    header.readLength? (extended ++ key ++ rest) =
      some (header.announced (extended ++ key), key ++ rest) := by
  rw [FrameHeader.announced, ← size, List.take_left, List.append_assoc]
  unfold FrameHeader.lengthBytes at size
  unfold readLength?
  split at size
  · next short =>
    have cut : Bytes.cut? 2 (extended ++ (key ++ rest)) = some (extended, key ++ rest) :=
      Bytes.cut?_eq_some_iff.mpr ⟨size, rfl⟩
    rw [if_pos short, cut, if_neg (by omega)]
    rfl
  · next notShort =>
    split at size
    · next long =>
      have cut : Bytes.cut? 8 (extended ++ (key ++ rest)) = some (extended, key ++ rest) :=
        Bytes.cut?_eq_some_iff.mpr ⟨size, rfl⟩
      rw [if_neg notShort, if_pos long, cut, if_neg (by omega)]
      rfl
    · next notLong =>
      rw [if_neg notShort, if_neg notLong, if_pos size, List.length_eq_zero_iff.mp size,
        List.nil_append]

/-- The key is read where its bytes are there. -/
theorem readKey?_append {key : Bytes} (size : key.length = header.keyBytes) (rest : Bytes) :
    header.readKey? (key ++ rest) = some (MaskKey.ofBytes? key, rest) := by
  unfold FrameHeader.keyBytes at size
  unfold readKey?
  split at size
  · next masked =>
    have cut : Bytes.cut? 4 (key ++ rest) = some (key, rest) :=
      Bytes.cut?_eq_some_iff.mpr ⟨size, rfl⟩
    rw [if_pos masked, cut]
    rfl
  · next bare =>
    rw [if_neg bare, List.length_eq_zero_iff.mp size]
    rfl

theorem IsLawful.frame_eq (lawful : header.IsLawful) (key : Option MaskKey) (covered : Bytes) :
    header.frame key covered =
      { fin := header.fin, opcode := header.opcode, mask := key
        payload := match key with
          | some key => key.apply .littleEndian covered
          | none => covered } := by
  simp only [frame, lawful.rsv1, lawful.rsv2, lawful.rsv3]

end RawHeader

/-! ## Every read finds its bytes -/

/-- A call whose reads find their bytes. It does what a cautious decoder does, and what is kept
afterwards is lawful. -/
def RawDecoder.Succeeds (limit : Nat) (raw : Option RawDecoded) (decoded : Decoded) : Prop :=
  ∃ given, raw = some given ∧ given.decoder.stage.IsLawful limit ∧ given.cautious = decoded

namespace RawDecoder

variable {decoder : RawDecoder} {header : RawHeader}

theorem readPayload?_succeeds {key : Option MaskKey} {length : Nat}
    (lawful : (RawStage.payload header key length).IsLawful decoder.limit) (buffer : Bytes) :
    Succeeds decoder.limit (decoder.readPayload? header key length buffer)
      (decoder.cautious.takePayload header.toFrameHeader key length buffer) := by
  unfold readPayload? Decoder.takePayload
  rcases Nat.lt_or_ge buffer.length length with short | enough
  · rw [if_pos short, Bytes.cut?_of_length_lt short]
    exact ⟨_, rfl, lawful, rfl⟩
  · have cut : buffer.cut? length = some (buffer.take length, buffer.drop length) :=
      Bytes.cut?_eq_some_iff.mpr ⟨List.length_take_of_le enough, (List.take_append_drop ..).symm⟩
    rw [if_neg (Nat.not_lt.mpr enough), cut]
    refine ⟨_, rfl, trivial, ?_⟩
    simp only [RawDecoded.cautious, lawful.1.frame_eq]
    rfl

theorem readExtension?_succeeds (lawful : header.IsLawful) (buffer : Bytes) :
    Succeeds decoder.limit (decoder.readExtension? header buffer)
      (decoder.cautious.takeExtension header.toFrameHeader buffer) := by
  unfold readExtension?
  rw [lawful.remaining_eq]
  rcases Nat.lt_or_ge buffer.length (header.lengthBytes + header.keyBytes) with short | enough
  · rw [if_pos short, Decoder.takeExtension, Bytes.cut?_of_length_lt short]
    exact ⟨_, rfl, lawful, rfl⟩
  · rw [if_neg (Nat.not_lt.mpr enough)]
    -- The count that was kept is the sum of the two widths by which length and key are read.
    obtain ⟨extended, key, rest, rfl, size, keySize⟩ :
        ∃ extended key rest, buffer = extended ++ key ++ rest ∧
          extended.length = header.lengthBytes ∧ key.length = header.keyBytes := by
      refine ⟨buffer.take header.lengthBytes, (buffer.drop header.lengthBytes).take header.keyBytes,
        (buffer.drop header.lengthBytes).drop header.keyBytes, ?_, ?_, ?_⟩
      · rw [List.append_assoc, List.take_append_drop, List.take_append_drop]
      · rw [List.length_take]
        omega
      · rw [List.length_take, List.length_drop]
        omega
    rw [Decoder.takeExtension_of_whole _ size keySize, RawHeader.readLength?_append size]
    simp only [Option.bind_eq_bind, Option.bind_some]
    by_cases refused : Frame.maxPayload < header.announced (extended ++ key) ∨
        decoder.limit ≤ header.announced (extended ++ key)
    · rw [if_pos refused, if_pos (show _ ∨ decoder.cautious.limit ≤ _ from refused)]
      exact ⟨_, rfl, trivial, rfl⟩
    · rw [if_neg refused, if_neg (show ¬ (_ ∨ decoder.cautious.limit ≤ _) from refused),
        RawHeader.readKey?_append keySize]
      rw [not_or, Nat.not_lt, Nat.not_le] at refused
      exact readPayload?_succeeds
        ⟨lawful, refused.2, refused.1, lawful.legal.announced_le (extended ++ key)⟩ rest

theorem readHeader?_succeeds (decoder : RawDecoder) (buffer : Bytes) :
    Succeeds decoder.limit (decoder.readHeader? buffer) (decoder.cautious.takeHeader buffer) := by
  match buffer with
  | [] | [_] => exact ⟨_, rfl, trivial, rfl⟩
  | first :: second :: rest =>
    have enough : ¬ (first :: second :: rest).length < 2 := by simp
    unfold readHeader? Decoder.takeHeader
    rw [if_neg enough]
    simp only [Bytes.next?, Option.bind_eq_bind, Option.bind_some]
    rcases RawHeader.ofBytes_lawful first second with
      ⟨violation, raw, cautious⟩ | ⟨header, raw, cautious, lawful⟩
    · rw [raw, cautious]
      exact ⟨_, rfl, trivial, rfl⟩
    · rw [raw, cautious]
      exact readExtension?_succeeds lawful rest

/-- One call on a lawful decoder. -/
theorem decode?_succeeds (lawful : decoder.stage.IsLawful decoder.limit) (buffer : Bytes) :
    Succeeds decoder.limit (decoder.decode? buffer) (decoder.cautious.decode buffer) := by
  obtain ⟨limit, stage⟩ := decoder
  cases stage with
  | start => exact readHeader?_succeeds _ buffer
  | header header => exact readExtension?_succeeds lawful buffer
  | payload header key length => exact readPayload?_succeeds lawful buffer

theorem decodeEnd?_succeeds (lawful : decoder.stage.IsLawful decoder.limit) (buffer : Bytes) :
    Succeeds decoder.limit (decoder.decodeEnd? buffer) (decoder.cautious.decodeEnd buffer) := by
  obtain ⟨given, raw, after, same⟩ := decode?_succeeds lawful buffer
  unfold decodeEnd? Decoder.decodeEnd
  rw [raw, ← same]
  obtain ⟨outcome, decoder, rest⟩ := given
  rcases outcome with violation | _ | frame
  · exact ⟨_, rfl, after, rfl⟩
  · exact ⟨_, rfl, trivial, rfl⟩
  · exact ⟨_, rfl, after, rfl⟩

end RawDecoder

/-! ## Histories -/

namespace History

variable {limit : Nat} {history : History RawDecoder}

/-- A call that finds its bytes, as a use of the decoder. -/
theorem called_succeeds (same : history.decoder.limit = limit) {raw : Option RawDecoded}
    {decoded : Decoded} (keeps : decoded.decoder.limit = history.decoder.limit)
    (succeeds : RawDecoder.Succeeds history.decoder.limit raw decoded) :
    ∃ next, (raw.bind fun given =>
        some (history.called given.cautious.result? given.decoder given.rest)) = some next ∧
      next.decoder.limit = limit ∧ next.decoder.stage.IsLawful limit ∧
      next.cautious = history.cautious.called decoded.result? decoded.decoder decoded.rest := by
  obtain ⟨given, rfl, lawful, rfl⟩ := succeeds
  exact ⟨_, rfl, keeps.trans same, same ▸ lawful, rfl⟩

theorem use?_succeeds (same : history.decoder.limit = limit)
    (lawful : history.decoder.stage.IsLawful limit) (use : DecoderUse) :
    ∃ next, history.use? use = some next ∧ next.decoder.limit = limit ∧
      next.decoder.stage.IsLawful limit ∧ next.cautious = history.cautious.use use := by
  cases use with
  | append bytes => exact ⟨_, rfl, same, lawful, rfl⟩
  | decode =>
    exact called_succeeds same (Decoder.limit_decode ..)
      (RawDecoder.decode?_succeeds (same ▸ lawful) history.buffer)
  | decodeEnd =>
    exact called_succeeds same (Decoder.limit_decodeEnd ..)
      (RawDecoder.decodeEnd?_succeeds (same ▸ lawful) history.buffer)

end History

namespace RawDecoder

/-- Whatever is appended and called, and also after violations: no read runs past the buffer, and
what is kept between two calls is lawful. The frames and violations that are given are those of a
cautious decoder, and every frame obeys the framing rules. -/
theorem reads_lawful (limit : Nat) (uses : List DecoderUse) :
    ∃ history : History RawDecoder,
      uses.foldlM History.use? { decoder := { limit } } = some history ∧
      history.decoder.stage.IsLawful limit ∧
      history.cautious = uses.foldl History.use { decoder := { limit } } ∧
      ∀ frame, .ok frame ∈ history.results → frame.IsLegal limit := by
  -- A lawful stage under the same limit carries over from each use to the next.
  have run (start : History RawDecoder) (same : start.decoder.limit = limit)
      (lawful : start.decoder.stage.IsLawful limit) :
      ∃ history, uses.foldlM History.use? start = some history ∧
        history.decoder.stage.IsLawful limit ∧
        history.cautious = uses.foldl History.use start.cautious := by
    induction uses generalizing start with
    | nil => exact ⟨start, rfl, lawful, rfl⟩
    | cons use uses ih =>
      obtain ⟨next, used, same, lawful, cautious⟩ := History.use?_succeeds same lawful use
      obtain ⟨history, ran, lawful, later⟩ := ih next same lawful
      refine ⟨history, ?_, lawful, ?_⟩
      · rw [List.foldlM_cons, used]
        exact ran
      · rw [later, cautious, List.foldl_cons]
  obtain ⟨history, ran, lawful, cautious⟩ := run { decoder := { limit } } rfl trivial
  refine ⟨history, ran, lawful, cautious, fun frame member => ?_⟩
  refine (History.isLegal_foldl limit uses).frames frame ?_
  change _ = uses.foldl History.use { decoder := { limit } } at cautious
  rw [← cautious]
  exact member

/-- With a count that leaves out the key, reading the key would run past the buffer. -/
example :
    decode? ⟨9, .header ⟨⟨true, .binary, true, 5⟩, false, false, false, 0⟩⟩ [1, 2] = none :=
  rfl

end RawDecoder

end WebSocket
