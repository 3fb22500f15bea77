import WebSocket.Proofs.Frame.Grammar

/-! # The shortest form of a frame

The forms of a length overlap, so that one frame may travel in several ways. What is written is the
shortest of them (`Frame.encodeInto?_shortest`): the length stands in the shortest form that holds
it (`IsLengthForm.eq_or_longer`) and is not cut by the width of its bytes
(`isLengthForm_lengthForm`), and nothing else of a frame with a given key leaves a choice
(`exists_form_of_isWire`).
-/

namespace WebSocket.Frame

/-! ## Lengths -/

/-- The bytes that the shortest form of a length takes behind its code. -/
def extendedBytes (length : Nat) : Nat :=
  if length < 126 then 0 else if length < 65536 then 2 else 8

theorem length_lengthForm (length : Nat) :
    (lengthForm length).2.length = extendedBytes length := by
  unfold lengthForm extendedBytes
  split
  · rfl
  · split <;> simp

/-- The form that is written stands for the whole length. -/
theorem isLengthForm_lengthForm {length : Nat} (announceable : length ≤ maxPayload) :
    IsLengthForm (lengthForm length).1 (lengthForm length).2 length := by
  unfold lengthForm
  split
  · next tiny =>
    have same : (UInt8.ofNat length).toNat = length := by
      rw [UInt8.toNat_ofNat']
      omega
    have form : IsLengthForm (.ofNat length) [] (UInt8.ofNat length).toNat :=
      .tiny (by omega)
    rwa [same] at form
  · split
    · next short =>
      have fits : length < Bytes.range 2 := short
      have form := IsLengthForm.short (Bytes.length_writeBe 2 length)
      rwa [Bytes.readBe_writeBe_of_lt fits] at form
    · have fits : length < Bytes.range 8 := by
        simp only [maxPayload] at announceable
        simp only [Bytes.range]
        omega
      have same := Bytes.readBe_writeBe_of_lt fits
      obtain ⟨high, low, bytes⟩ := List.exists_cons_of_length_eq_add_one
        (Bytes.length_writeBe 8 length)
      have size : low.length = 7 := by
        have whole := Bytes.length_writeBe 8 length
        rw [bytes, List.length_cons] at whole
        omega
      rw [bytes] at same ⊢
      have form := IsLengthForm.long size
        ((Bytes.readBe_le_maxPayload_iff high size).mp (same ▸ announceable))
      rwa [same] at form

/-- Every other form of a length is longer than the one that is written. -/
theorem IsLengthForm.eq_or_longer {code : UInt8} {extended : Bytes} {length : Nat}
    (form : IsLengthForm code extended length) :
    (code, extended) = lengthForm length ∨ extendedBytes length < extended.length := by
  unfold lengthForm extendedBytes
  cases form with
  | tiny small =>
    left
    rw [if_pos (by omega), UInt8.ofNat_toNat]
  | short size =>
    have bound : Bytes.readBe extended < 65536 := by
      have := Bytes.readBe_lt extended
      rwa [size] at this
    have same := Bytes.writeBe_readBe extended
    rw [size] at same
    by_cases tiny : Bytes.readBe extended < 126
    · right
      rw [if_pos tiny, size]
      decide
    · left
      rw [if_neg tiny, if_pos bound, same]
  | @long high low size clear =>
    have same := Bytes.writeBe_readBe (high :: low)
    rw [List.length_cons, size] at same
    by_cases tiny : Bytes.readBe (high :: low) < 126
    · right
      rw [if_pos tiny, List.length_cons, size]
      decide
    · by_cases short : Bytes.readBe (high :: low) < 65536
      · right
        rw [if_neg tiny, if_pos short, List.length_cons, size]
        decide
      · left
        rw [if_neg tiny, if_neg short, same]

/-! ## Frames -/

/-- Whether a fresh decoder takes all of some bytes for a frame. -/
def Decodes (limit : Nat) (wire : Bytes) (frame : Frame) : Prop :=
  (({ limit } : Decoder).decode wire).outcome = .ok (some frame) ∧
    (({ limit } : Decoder).decode wire).rest = []

theorem decodes_iff_isWire {limit : Nat} {wire : Bytes} {frame : Frame} :
    Decodes limit wire frame ↔ IsWire limit frame wire := by
  constructor
  · rintro ⟨given, all⟩
    rcases Decoder.exists_isWire_or_declines limit wire with
      ⟨other, front, rest, rfl, isWire⟩ | ⟨decoded, declines⟩
    · rw [Decoder.decode_of_isWire isWire rest] at given all
      cases given
      obtain rfl : rest = [] := all
      rw [List.append_nil]
      exact isWire
    · rw [Decoder.decode_of_declines declines] at given
      exact absurd given (declines.outcome_ne_frame frame)
  · intro isWire
    have decoded := Decoder.decode_of_isWire isWire []
    rw [List.append_nil] at decoded
    rw [Decodes, decoded]
    exact ⟨rfl, rfl⟩

variable {limit : Nat} {frame : Frame} {key : MaskKey}

/-- The masked form of a frame with its length in a given form. -/
def maskedWith (frame : Frame) (key : MaskKey) (code : UInt8) (extended : Bytes) : Bytes :=
  frame.firstByte :: (0x80 ||| code) :: (extended ++ key.toBytes) ++ key.cover frame.payload

theorem length_maskedWith (frame : Frame) (key : MaskKey) (code : UInt8) (extended : Bytes) :
    (frame.maskedWith key code extended).length =
      2 + extended.length + 4 + frame.payload.length := by
  simp only [maskedWith, List.length_append, List.length_cons, MaskKey.toBytes, List.length_nil,
    MaskKey.length_cover]
  omega

theorem form_eq_maskedWith (frame : Frame) (key : MaskKey) :
    frame.form (some key) =
      frame.maskedWith key (lengthForm frame.payload.length).1
        (lengthForm frame.payload.length).2 := by
  rw [form, head_eq]
  rfl

/-- A frame that travels under a key leaves no choice but the form of its length. -/
theorem exists_form_of_isWire {wire : Bytes}
    (isWire : IsWire limit { frame with mask := some key } wire) :
    ∃ code extended, IsLengthForm code extended frame.payload.length ∧
      wire = frame.maskedWith key code extended := by
  generalize whole : { frame with mask := some key } = told at isWire
  obtain @⟨header, legal, extended, payload, form, fits, mask, keyed⟩ := isWire
  obtain ⟨fin, rsv1, rsv2, rsv3, opcode, rfl, rfl⟩ := Frame.mk.inj whole
  refine ⟨header.lengthCode, extended, form, ?_⟩
  have first : frame.firstByte = header.firstByte := by
    rw [firstByte, rsv1, rsv2, rsv3, fin, opcode]
    simp [FrameHeader.firstByte]
  rw [maskedWith, first, FrameHeader.bytes, keyed]
  simp [secondByte]

/-- A wire form of a frame that is shorter than every other one. -/
structure IsShortest (limit : Nat) (frame : Frame) (wire : Bytes) : Prop where
  decodes : Decodes limit wire frame
  shorter : ∀ other, Decodes limit other frame → other ≠ wire → wire.length < other.length

/-- What is written for a frame decodes to it. -/
theorem isShortest_maskedWith (clear : frame.rsv1 = false ∧ frame.rsv2 = false ∧ frame.rsv3 = false)
    (control : frame.opcode.isControl = true →
      frame.fin = true ∧ frame.payload.length ≤ maxControlPayload)
    (fits : frame.payload.length < limit) (announceable : frame.payload.length ≤ maxPayload)
    (key : MaskKey) :
    IsShortest limit { frame with mask := some key }
      (frame.maskedWith key (lengthForm frame.payload.length).1
        (lengthForm frame.payload.length).2) := by
  obtain ⟨rsv1, rsv2, rsv3⟩ := clear
  refine ⟨?_, fun other decodes different => ?_⟩
  · have decoded := decode_form ⟨rsv1, rsv2, rsv3, control, fits, announceable⟩ (some key) []
    rw [List.append_nil, form_eq_maskedWith] at decoded
    rw [Decodes, decoded]
    exact ⟨rfl, rfl⟩
  · obtain ⟨code, extended, form, rfl⟩ := exists_form_of_isWire (decodes_iff_isWire.mp decodes)
    rcases form.eq_or_longer with same | longer
    · rw [← same] at different
      exact absurd rfl different
    · simp only [length_maskedWith, length_lengthForm]
      omega

/-- A frame that obeys the framing rules is written in its shortest form, whatever key it travels
under and wherever in a buffer: two bytes, the shortest extension that holds the whole length, the
key and the payload. The head takes at most fourteen bytes. A frame whose length fits no form is not
written, and nothing decodes to it. -/
theorem encodeInto?_shortest
    (clear : frame.rsv1 = false ∧ frame.rsv2 = false ∧ frame.rsv3 = false)
    (control : frame.opcode.isControl = true →
      frame.fin = true ∧ frame.payload.length ≤ maxControlPayload)
    (fits : frame.payload.length < limit) (order : ByteOrder) (fresh : MaskKey) (buffer : Bytes) :
    (frame.payload.length ≤ maxPayload → ∃ code extended,
      let wire := frame.maskedWith (frame.writingKey fresh) code extended
      frame.encodeInto? order fresh buffer = some (buffer ++ wire) ∧
        IsShortest limit { frame with mask := some (frame.writingKey fresh) } wire ∧
        IsLengthForm code extended frame.payload.length ∧
        extended.length = extendedBytes frame.payload.length ∧
        wire.length = 2 + extended.length + 4 + frame.payload.length ∧
        (frame.head (some (frame.writingKey fresh))).length ≤ 14) ∧
    (maxPayload < frame.payload.length →
      frame.encodeInto? order fresh buffer = none ∧
        ∀ other, ¬ Decodes limit other { frame with mask := some (frame.writingKey fresh) }) := by
  constructor
  · intro announceable
    refine ⟨_, _, ?_, isShortest_maskedWith clear control fits announceable _,
      isLengthForm_lengthForm announceable, length_lengthForm _, length_maskedWith .., ?_⟩
    · rw [encodeInto?_eq order fresh buffer announceable, form_eq_maskedWith]
    · have small : extendedBytes frame.payload.length ≤ 8 := by
        unfold extendedBytes
        split
        · decide
        · split <;> decide
      rw [head_eq, List.length_cons, List.length_cons, extension, List.length_append,
        length_lengthForm]
      simp only [Option.elim_some, MaskKey.toBytes, List.length_cons, List.length_nil]
      omega
  · intro tooLong
    refine ⟨if_neg (Nat.not_le.mpr tooLong), fun other decodes => ?_⟩
    obtain ⟨code, extended, form, -⟩ := exists_form_of_isWire (decodes_iff_isWire.mp decodes)
    exact Nat.not_lt.mpr form.le_maxPayload tooLong

/-- The smallest payload whose length does not fit behind its code, in a fragment with a key of its
own. -/
def firstExtended : Frame :=
  { fragment .text .first (List.replicate 126 0x61) with mask := some ⟨1, 2, 3, 4⟩ }

theorem encodeInto?_shortest_firstExtended :
    (firstExtended.rsv1 = false ∧ firstExtended.rsv2 = false ∧ firstExtended.rsv3 = false) ∧
    (firstExtended.opcode.isControl = true →
      firstExtended.fin = true ∧ firstExtended.payload.length ≤ maxControlPayload) ∧
    firstExtended.payload.length < 127 ∧ firstExtended.payload.length ≤ maxPayload ∧
    ∃ wire, firstExtended.encodeInto? .bigEndian ⟨5, 6, 7, 8⟩ [0xCA, 0xFE] =
        some ([0xCA, 0xFE] ++ wire) ∧
      IsShortest 127 firstExtended wire ∧ wire.length = 2 + 2 + 4 + 126 := by
  have clear : firstExtended.rsv1 = false ∧ firstExtended.rsv2 = false ∧
      firstExtended.rsv3 = false := ⟨rfl, rfl, rfl⟩
  have size : firstExtended.payload.length = 126 := List.length_replicate
  have fits : firstExtended.payload.length < 127 := by omega
  have announceable : firstExtended.payload.length ≤ maxPayload := by
    rw [size]
    decide
  obtain ⟨code, extended, written, shortest, -, width, length, -⟩ :=
    (encodeInto?_shortest clear nofun fits .bigEndian ⟨5, 6, 7, 8⟩ [0xCA, 0xFE]).1 announceable
  rw [width, size] at length
  exact ⟨clear, nofun, fits, announceable, _, written, shortest, length⟩

end WebSocket.Frame
