import Mathlib.Data.List.Induction
import Mathlib.Tactic.Linarith
import Mathlib.Tactic.Ring
import WebSocket.Proofs.Frame.RoundTrip

/-! # The grammar of frames

What a decoder takes for a frame, said without a decoder: two header bytes, a length in one of three
forms, a key, and the payload under that key (`Frame.IsWire`). The forms of a length overlap, so a
frame can travel in more than one way. A buffer that does not begin with a frame is declined for the
first reason that applies (`Decoder.Declines`). Every buffer falls under one of the two
(`exists_isWire_or_declines`), and a fresh decoder does what they say (`decode_iff_isWire`).
-/

namespace WebSocket

/-- A cut is refused where there are too few bytes. -/
theorem Bytes.cut?_of_length_lt {count : Nat} {bytes : Bytes} (short : bytes.length < count) :
    cut? count bytes = none := by
  cases cut : cut? count bytes with
  | none => rfl
  | some split =>
    obtain ⟨size, whole⟩ := cut?_eq_some_iff.mp cut
    have sizes := congrArg List.length whole
    rw [List.length_append] at sizes
    omega

theorem OpCode.ofUInt8?_eq_none_iff {value : UInt8} :
    ofUInt8? value = none ↔ ∀ opcode : OpCode, opcode.toUInt8 ≠ value := by
  constructor
  · rintro unknown opcode rfl
    rw [ofUInt8?_toUInt8] at unknown
    cases unknown
  · intro unused
    cases known : ofUInt8? value with
    | none => rfl
    | some opcode => exact absurd (toUInt8_of_ofUInt8? known) (unused opcode)

/-! ## The two header bytes -/

namespace FrameHeader

/-- The final bit, three clear bits and the opcode. -/
def firstByte (header : FrameHeader) : UInt8 :=
  (if header.fin then 0x80 else 0) ||| header.opcode.toUInt8

/-- The two bytes in which a header travels. -/
def bytes (header : FrameHeader) : Bytes :=
  [header.firstByte, Frame.secondByte header.masked header.lengthCode]

variable {header : FrameHeader}

/-- Two bytes that were made of a header are read as that header, unless it breaks a rule for
control frames. -/
theorem ofBytes_bytes (code : header.lengthCode < 128) :
    ofBytes header.firstByte (Frame.secondByte header.masked header.lengthCode) =
      if header.opcode.isControl && !header.fin then .error .fragmentedControl
      else if header.opcode.isControl && maxControlPayload < header.lengthCode.toNat then
        .error .oversizedControl
      else .ok header := by
  obtain ⟨fin, opcode, masked, lengthCode⟩ := header
  obtain ⟨clear, known, final⟩ := Frame.firstByte_bits fin opcode
  obtain ⟨maskedCode, maskedBit, plainCode, plainBit⟩ :=
    Frame.secondByte_bits lengthCode.toNat (UInt8.lt_iff_toNat_lt.mp code)
  rw [UInt8.ofNat_toNat] at maskedCode maskedBit plainCode plainBit
  have length : Frame.secondByte masked lengthCode &&& 0x7F = lengthCode := by
    cases masked <;> assumption
  have bit : decide (Frame.secondByte masked lengthCode &&& 0x80 ≠ 0) = masked := by
    cases masked <;> simp [Frame.secondByte, maskedBit, plainBit]
  unfold ofBytes firstByte
  simp only [clear, known, final, length, bit]
  rfl

/-- Two bytes without reserved bits and with a known opcode are those of a header. -/
theorem exists_bytes_eq {first : UInt8} {opcode : OpCode} (clear : first &&& 0x70 = 0)
    (known : OpCode.ofUInt8? (first &&& 0x0F) = some opcode) (second : UInt8) :
    ∃ header : FrameHeader, header.lengthCode < 128 ∧ header.bytes = [first, second] := by
  have firsts : ∀ n : Fin 256, UInt8.ofNat n &&& 0x70 = 0 →
      (if decide (UInt8.ofNat n &&& 0x80 ≠ 0) then 0x80 else 0) ||| (UInt8.ofNat n &&& 0x0F) =
        UInt8.ofNat n := by
    decide +kernel
  have seconds : ∀ n : Fin 256, UInt8.ofNat n &&& 0x7F < 128 ∧
      Frame.secondByte (decide (UInt8.ofNat n &&& 0x80 ≠ 0)) (UInt8.ofNat n &&& 0x7F) =
        UInt8.ofNat n := by
    decide +kernel
  have ofFirst := firsts ⟨first.toNat, first.toNat_lt⟩
  obtain ⟨small, ofSecond⟩ := seconds ⟨second.toNat, second.toNat_lt⟩
  simp only [UInt8.ofNat_toNat] at ofFirst ofSecond small
  refine ⟨⟨decide (first &&& 0x80 ≠ 0), opcode, decide (second &&& 0x80 ≠ 0), second &&& 0x7F⟩,
    small, ?_⟩
  rw [bytes, firstByte, OpCode.toUInt8_of_ofUInt8? known, ofFirst clear, ofSecond]

end FrameHeader

namespace Bytes

theorem readBe_cons (byte : UInt8) (bytes : Bytes) :
    readBe (byte :: bytes) = byte.toNat * range bytes.length + readBe bytes := by
  have general (number : Nat) (bytes : Bytes) :
      bytes.foldl (fun number byte => number * 256 + byte.toNat) number =
        number * range bytes.length + readBe bytes := by
    induction bytes generalizing number with
    | nil => simp [readBe, range]
    | cons byte bytes ih =>
      rw [readBe, List.foldl_cons, List.foldl_cons, ih, ih (0 * 256 + byte.toNat),
        List.length_cons, range]
      ring
  rw [readBe, List.foldl_cons, general, Nat.zero_mul, Nat.zero_add]

theorem readBe_lt (bytes : Bytes) : readBe bytes < range bytes.length := by
  induction bytes with
  | nil => exact Nat.one_pos
  | cons byte bytes ih =>
    have small : byte.toNat + 1 ≤ 256 := byte.toNat_lt
    calc readBe (byte :: bytes)
      _ = byte.toNat * range bytes.length + readBe bytes := readBe_cons byte bytes
      _ < (byte.toNat + 1) * range bytes.length := by linarith
      _ ≤ range (byte :: bytes).length := Nat.mul_le_mul_right _ small

/-- Reading a number and writing it again gives the same bytes. -/
theorem writeBe_readBe (bytes : Bytes) : writeBe bytes.length (readBe bytes) = bytes := by
  induction bytes using List.reverseRecOn with
  | nil => rfl
  | append_singleton front last ih =>
    have whole : readBe (front ++ [last]) = readBe front * 256 + last.toNat := by
      simp [readBe]
    have size := last.toNat_lt
    have high : (readBe front * 256 + last.toNat) / 256 = readBe front := by omega
    have low : UInt8.ofNat (readBe front * 256 + last.toNat) = last := by
      apply UInt8.toNat_inj.mp
      rw [UInt8.toNat_ofNat']
      omega
    rw [List.length_append, List.length_singleton, writeBe, whole, high, ih, low]

/-- Two bytes spell a number of sixteen bits. -/
theorem toNat_ofNat_readBe (high low : UInt8) :
    (UInt16.ofNat (readBe [high, low])).toNat = readBe [high, low] := by
  rw [UInt16.toNat_ofNat']
  exact Nat.mod_eq_of_lt (readBe_lt [high, low])

/-- A number of eight bytes can be the length of a payload when its highest bit is clear. -/
theorem readBe_le_maxPayload_iff (high : UInt8) {low : Bytes} (size : low.length = 7) :
    readBe (high :: low) ≤ Frame.maxPayload ↔ high < 0x80 := by
  have rest := readBe_lt low
  rw [readBe_cons, size, UInt8.lt_iff_toNat_lt]
  rw [size] at rest
  simp only [range, Frame.maxPayload] at rest ⊢
  change _ ↔ high.toNat < 128
  omega

end Bytes

namespace Frame

/-! ## The length -/

/-- The forms of a length: the code in the second byte, the bytes behind it, and the number that
they stand for. In the longest form the highest bit is clear. -/
inductive IsLengthForm : UInt8 → Bytes → Nat → Prop
  | tiny {code : UInt8} (small : code.toNat ≤ 125) : IsLengthForm code [] code.toNat
  | short {extended : Bytes} (size : extended.length = 2) :
      IsLengthForm 126 extended (Bytes.readBe extended)
  | long {high : UInt8} {low : Bytes} (size : low.length = 7) (clear : high < 0x80) :
      IsLengthForm 127 (high :: low) (Bytes.readBe (high :: low))

namespace IsLengthForm

variable {header : FrameHeader} {extended : Bytes} {length : Nat}

theorem code_lt {code : UInt8} (form : IsLengthForm code extended length) : code < 128 := by
  cases form with
  | tiny small =>
    rw [UInt8.lt_iff_toNat_lt]
    exact Nat.lt_of_le_of_lt small (by decide)
  | short | long => decide

theorem le_maxPayload {code : UInt8} (form : IsLengthForm code extended length) :
    length ≤ maxPayload := by
  cases form with
  | tiny small => exact Nat.le_trans small (by decide)
  | short size =>
    have bound := Bytes.readBe_lt extended
    rw [size] at bound
    exact Nat.le_trans (Nat.le_of_lt bound) (by decide)
  | long size clear => exact (Bytes.readBe_le_maxPayload_iff _ size).mpr clear

theorem lengthBytes_eq (form : IsLengthForm header.lengthCode extended length) :
    header.lengthBytes = extended.length := by
  obtain ⟨fin, opcode, masked, code⟩ := header
  unfold FrameHeader.lengthBytes
  cases form with
  | tiny small =>
    have other (number : UInt8) (large : 125 < number.toNat) : code ≠ number := by
      rintro rfl
      exact Nat.not_le_of_lt large small
    rw [if_neg (other 126 (by decide)), if_neg (other 127 (by decide)), List.length_nil]
  | short size => exact size.symm
  | long size => rw [List.length_cons, size]; rfl

/-- The number that a length stands for is the one that the header announces with it. -/
theorem announced_eq (form : IsLengthForm header.lengthCode extended length) (key : Bytes) :
    header.announced (extended ++ key) = length := by
  rw [FrameHeader.announced, form.lengthBytes_eq, List.take_left]
  obtain ⟨fin, opcode, masked, code⟩ := header
  cases form with
  | tiny small => rfl
  | short size => rw [size]; rfl
  | long size => rfl

end IsLengthForm

/-- As many bytes as a length code asks for are a length, unless the highest bit of the longest form
is set. -/
theorem exists_isLengthForm {header : FrameHeader} (code : header.lengthCode < 128)
    {extended : Bytes} (size : extended.length = header.lengthBytes) :
    (∃ length, IsLengthForm header.lengthCode extended length) ∨
      ∃ high low, header.lengthCode = 127 ∧ extended = high :: low ∧ low.length = 7 ∧
        0x80 ≤ high := by
  obtain ⟨fin, opcode, masked, lengthCode⟩ := header
  unfold FrameHeader.lengthBytes at size
  dsimp only at code size ⊢
  split at size
  · next short =>
    subst short
    exact .inl ⟨_, .short size⟩
  · split at size
    · next long =>
      subst long
      obtain ⟨high, low, rfl⟩ := List.exists_cons_of_length_eq_add_one size
      have rest : low.length = 7 := by simpa using size
      by_cases clear : high < 0x80
      · exact .inl ⟨_, .long rest clear⟩
      · exact .inr ⟨high, low, rfl, rfl, rest, UInt8.not_lt.mp clear⟩
    · next notShort notLong =>
      rw [List.length_eq_zero_iff] at size
      subst size
      refine .inl ⟨_, .tiny ?_⟩
      rw [← UInt8.toNat_inj] at notShort notLong
      rw [UInt8.lt_iff_toNat_lt] at code
      change ¬ lengthCode.toNat = 126 at notShort
      change ¬ lengthCode.toNat = 127 at notLong
      change lengthCode.toNat < 128 at code
      omega

/-! ## Frames -/

/-- The bytes in which a frame may travel to a decoder with a given limit. The reserved bits of the
frame are clear, and its payload stands under the key when there is one. -/
inductive IsWire (limit : Nat) : Frame → Bytes → Prop
  | intro {header : FrameHeader} (legal : header.IsLegal) {extended payload : Bytes}
      (form : IsLengthForm header.lengthCode extended payload.length)
      (fits : payload.length < limit) {key : Option MaskKey} (keyed : header.masked = key.isSome) :
      IsWire limit { fin := header.fin, opcode := header.opcode, mask := key, payload }
        (header.bytes ++ extended ++ key.elim [] MaskKey.toBytes ++
          key.elim payload (·.cover payload))

end Frame

namespace Decoder

/-- What a fresh decoder makes of a buffer that does not begin with a frame. The cases stand in the
order in which they count, and each of them leaves no room for those before it. -/
inductive Declines (limit : Nat) : Bytes → Decoded → Prop
  | headerMissing {buffer : Bytes} (short : buffer.length < 2) :
      Declines limit buffer ⟨.ok none, { limit }, buffer⟩
  | reservedBits {first : UInt8} (set : first &&& 0x70 ≠ 0) (second : UInt8) (rest : Bytes) :
      Declines limit (first :: second :: rest) ⟨.error .reservedBits, { limit }, rest⟩
  | unknownOpCode {first : UInt8} (clear : first &&& 0x70 = 0)
      (unused : ∀ opcode : OpCode, opcode.toUInt8 ≠ first &&& 0x0F) (second : UInt8)
      (rest : Bytes) :
      Declines limit (first :: second :: rest)
        ⟨.error (.unknownOpCode (first &&& 0x0F)), { limit }, rest⟩
  | fragmentedControl {header : FrameHeader} (code : header.lengthCode < 128)
      (control : header.opcode.isControl = true) (more : header.fin = false) (rest : Bytes) :
      Declines limit (header.bytes ++ rest) ⟨.error .fragmentedControl, { limit }, rest⟩
  | oversizedControl {header : FrameHeader} (code : header.lengthCode < 128)
      (control : header.opcode.isControl = true) (final : header.fin = true)
      (large : maxControlPayload < header.lengthCode.toNat) (rest : Bytes) :
      Declines limit (header.bytes ++ rest) ⟨.error .oversizedControl, { limit }, rest⟩
  | extensionMissing {header : FrameHeader} (code : header.lengthCode < 128)
      (legal : header.IsLegal) {rest : Bytes}
      (short : rest.length < header.lengthBytes + header.keyBytes) :
      Declines limit (header.bytes ++ rest) ⟨.ok none, { limit, stage := .header header }, rest⟩
  | topBitSet {header : FrameHeader} (code : header.lengthCode = 127) (legal : header.IsLegal)
      {high : UInt8} {low key : Bytes} (set : 0x80 ≤ high) (size : low.length = 7)
      (keySize : key.length = header.keyBytes) (rest : Bytes) :
      Declines limit (header.bytes ++ (high :: low) ++ key ++ rest)
        ⟨.error .tooLarge, { limit }, key ++ rest⟩
  | tooLarge {header : FrameHeader} (legal : header.IsLegal) {extended key : Bytes} {length : Nat}
      (form : Frame.IsLengthForm header.lengthCode extended length)
      (keySize : key.length = header.keyBytes) (large : limit ≤ length) (rest : Bytes) :
      Declines limit (header.bytes ++ extended ++ key ++ rest)
        ⟨.error .tooLarge, { limit }, key ++ rest⟩
  | payloadMissing {header : FrameHeader} (legal : header.IsLegal) {extended : Bytes}
      {length : Nat} (form : Frame.IsLengthForm header.lengthCode extended length)
      (fits : length < limit) {key : Option MaskKey} (keyed : header.masked = key.isSome)
      {rest : Bytes} (short : rest.length < length) :
      Declines limit (header.bytes ++ extended ++ key.elim [] MaskKey.toBytes ++ rest)
        ⟨.ok none, { limit, stage := .payload header key length }, rest⟩

/-! ## Every buffer begins with a frame or is declined -/

theorem exists_key {header : FrameHeader} {key : Bytes} (size : key.length = header.keyBytes) :
    ∃ mask : Option MaskKey, header.masked = mask.isSome ∧ key = mask.elim [] MaskKey.toBytes := by
  unfold FrameHeader.keyBytes at size
  split at size
  · next masked =>
    match key with
    | [first, second, third, fourth] =>
      exact ⟨some ⟨first, second, third, fourth⟩, masked, rfl⟩
  · next bare =>
    rw [List.length_eq_zero_iff] at size
    exact ⟨none, Bool.eq_false_iff.mpr bare, size⟩

/-- Bytes under a key are a payload that the key covers. -/
theorem exists_payload (mask : Option MaskKey) (covered : Bytes) :
    ∃ payload : Bytes, payload.length = covered.length ∧
      covered = mask.elim payload (·.cover payload) := by
  cases mask with
  | none => exact ⟨covered, rfl, rfl⟩
  | some key => exact ⟨key.cover covered, key.length_cover covered, (key.cover_cover covered).symm⟩

/-- Behind a legal header either something is missing or refused, or a frame ends. -/
theorem exists_isWire_or_declines_of_header (limit : Nat) {header : FrameHeader}
    (code : header.lengthCode < 128) (legal : header.IsLegal) (rest : Bytes) :
    (∃ frame wire later, header.bytes ++ rest = wire ++ later ∧ Frame.IsWire limit frame wire) ∨
      ∃ decoded, Declines limit (header.bytes ++ rest) decoded := by
  rcases Nat.lt_or_ge rest.length (header.lengthBytes + header.keyBytes) with short | enough
  · exact .inr ⟨_, .extensionMissing code legal short⟩
  · obtain ⟨extended, behind, rfl, size⟩ :
        ∃ extended behind, rest = extended ++ behind ∧ extended.length = header.lengthBytes :=
      ⟨rest.take header.lengthBytes, rest.drop header.lengthBytes, by simp, by simp; omega⟩
    rw [List.length_append, size] at enough
    obtain ⟨key, later, rfl, keySize⟩ :
        ∃ key later, behind = key ++ later ∧ key.length = header.keyBytes :=
      ⟨behind.take header.keyBytes, behind.drop header.keyBytes, by simp, by simp; omega⟩
    simp only [← List.append_assoc]
    obtain ⟨length, form⟩ | ⟨high, low, last, rfl, lowSize, set⟩ :=
      Frame.exists_isLengthForm code size
    · rcases Nat.lt_or_ge length limit with fits | large
      · obtain ⟨mask, keyed, rfl⟩ := exists_key keySize
        rcases Nat.lt_or_ge later.length length with short | whole
        · exact .inr ⟨_, .payloadMissing legal form fits keyed short⟩
        · obtain ⟨covered, end_, rfl, rfl⟩ :
              ∃ covered end_, later = covered ++ end_ ∧ covered.length = length :=
            ⟨later.take length, later.drop length, by simp, by simp; omega⟩
          obtain ⟨payload, sameSize, rfl⟩ := exists_payload mask covered
          rw [← sameSize] at form fits
          exact .inl ⟨_, _, end_, (List.append_assoc ..).symm, .intro legal form fits keyed⟩
      · exact .inr ⟨_, .tooLarge legal form keySize large later⟩
    · exact .inr ⟨_, .topBitSet last legal set lowSize keySize later⟩

theorem exists_isWire_or_declines (limit : Nat) (buffer : Bytes) :
    (∃ frame wire rest, buffer = wire ++ rest ∧ Frame.IsWire limit frame wire) ∨
      ∃ decoded, Declines limit buffer decoded := by
  match buffer with
  | [] | [_] => exact .inr ⟨_, .headerMissing (by simp)⟩
  | first :: second :: rest =>
    by_cases clear : first &&& 0x70 = 0
    · cases known : OpCode.ofUInt8? (first &&& 0x0F) with
      | none =>
        exact .inr ⟨_, .unknownOpCode clear (OpCode.ofUInt8?_eq_none_iff.mp known) second rest⟩
      | some opcode =>
        obtain ⟨header, code, bytes⟩ := FrameHeader.exists_bytes_eq clear known second
        have whole : first :: second :: rest = header.bytes ++ rest := by rw [bytes]; rfl
        rw [whole]
        by_cases control : header.opcode.isControl = true
        · cases final : header.fin with
          | false => exact .inr ⟨_, .fragmentedControl code control final rest⟩
          | true =>
            rcases Nat.lt_or_ge maxControlPayload header.lengthCode.toNat with large | small
            · exact .inr ⟨_, .oversizedControl code control final large rest⟩
            · exact exists_isWire_or_declines_of_header limit code (fun _ => ⟨final, small⟩) rest
        · exact exists_isWire_or_declines_of_header limit code (absurd · control) rest
    · exact .inr ⟨_, .reservedBits clear second rest⟩

/-! ## What a fresh decoder does -/

section

variable {limit : Nat} {header : FrameHeader}

/-- A legal header is taken, and the decoder goes on behind it. -/
theorem decode_bytes (code : header.lengthCode < 128) (legal : header.IsLegal) (rest : Bytes) :
    ({ limit } : Decoder).decode (header.bytes ++ rest) =
      ({ limit } : Decoder).takeExtension header rest := by
  have whole : (header.opcode.isControl && !header.fin) = false := by
    cases control : header.opcode.isControl with
    | false => rfl
    | true => simp [(legal control).1]
  have short :
      (header.opcode.isControl && maxControlPayload < header.lengthCode.toNat) = false := by
    cases control : header.opcode.isControl with
    | false => rfl
    | true => simpa using (legal control).2
  have read := FrameHeader.ofBytes_bytes code
  rw [whole, short, if_neg Bool.false_ne_true, if_neg Bool.false_ne_true] at read
  simp only [decode, takeHeader, FrameHeader.bytes, List.cons_append, List.nil_append, read]

variable (decoder : Decoder) {extended key : Bytes}

/-- Length and key are taken together. -/
theorem takeExtension_of_whole (size : extended.length = header.lengthBytes)
    (keySize : key.length = header.keyBytes) (rest : Bytes) :
    decoder.takeExtension header (extended ++ key ++ rest) =
      if Frame.maxPayload < header.announced (extended ++ key) ∨
          decoder.limit ≤ header.announced (extended ++ key) then
        ⟨.error .tooLarge, { decoder with stage := .start }, key ++ rest⟩
      else
        decoder.takePayload header (MaskKey.ofBytes? key) (header.announced (extended ++ key))
          rest := by
  have cut : Bytes.cut? (header.lengthBytes + header.keyBytes) (extended ++ key ++ rest) =
      some (extended ++ key, rest) :=
    Bytes.cut?_eq_some_iff.mpr ⟨by rw [List.length_append, size, keySize], rfl⟩
  have keyPart : (extended ++ key).drop header.lengthBytes = key := by
    rw [← size, List.drop_left]
  simp only [takeExtension, cut, FrameHeader.keyIn, keyPart]

theorem ofBytes?_key {mask : Option MaskKey} :
    MaskKey.ofBytes? (mask.elim [] MaskKey.toBytes) = mask := by
  cases mask <;> rfl

theorem length_key {mask : Option MaskKey} (keyed : header.masked = mask.isSome) :
    (mask.elim [] MaskKey.toBytes).length = header.keyBytes := by
  rw [FrameHeader.keyBytes, keyed]
  cases mask <;> rfl

/-- An accepted length takes the decoder to the payload. -/
theorem takeExtension_of_form {length : Nat}
    (form : Frame.IsLengthForm header.lengthCode extended length) (fits : length < limit)
    {mask : Option MaskKey} (keyed : header.masked = mask.isSome) (rest : Bytes) :
    ({ limit } : Decoder).takeExtension header
        (extended ++ mask.elim [] MaskKey.toBytes ++ rest) =
      ({ limit } : Decoder).takePayload header mask length rest := by
  have accepted : ¬ (Frame.maxPayload < length ∨ limit ≤ length) := by
    have := form.le_maxPayload
    omega
  rw [takeExtension_of_whole _ form.lengthBytes_eq.symm (length_key keyed), form.announced_eq,
    if_neg accepted, ofBytes?_key]

theorem decode_of_isWire {frame : Frame} {wire : Bytes} (isWire : Frame.IsWire limit frame wire)
    (rest : Bytes) :
    ({ limit } : Decoder).decode (wire ++ rest) = ⟨.ok (some frame), { limit }, rest⟩ := by
  obtain @⟨header, legal, extended, payload, form, fits, mask, keyed⟩ := isWire
  have cut : Bytes.cut? payload.length (mask.elim payload (·.cover payload) ++ rest) =
      some (mask.elim payload (·.cover payload), rest) :=
    Bytes.cut?_eq_some_iff.mpr ⟨by cases mask <;> simp, rfl⟩
  have taken := takeExtension_of_form form fits keyed (mask.elim payload (·.cover payload) ++ rest)
  simp only [List.append_assoc] at taken ⊢
  rw [decode_bytes form.code_lt legal, taken]
  simp only [takePayload, cut]
  cases mask with
  | none => rfl
  | some key => simp [MaskKey.apply_eq_cover, MaskKey.cover_cover]

theorem decode_of_declines {buffer : Bytes} {decoded : Decoded}
    (declines : Declines limit buffer decoded) :
    ({ limit } : Decoder).decode buffer = decoded := by
  cases declines with
  | headerMissing short =>
    match buffer with
    | [] | [_] => rfl
    | _ :: _ :: _ => simp only [List.length_cons] at short; omega
  | reservedBits set second rest =>
    simp only [decode, takeHeader, FrameHeader.ofBytes, if_pos set]
  | unknownOpCode clear unused second rest =>
    have unknown := OpCode.ofUInt8?_eq_none_iff.mpr unused
    simp [decode, takeHeader, FrameHeader.ofBytes, clear, unknown]
  | fragmentedControl code control more rest =>
    have read := FrameHeader.ofBytes_bytes code
    simp only [control, more, Bool.not_false, Bool.and_self, if_true] at read
    simp only [decode, takeHeader, FrameHeader.bytes, List.cons_append, List.nil_append, read]
  | oversizedControl code control final large rest =>
    have read := FrameHeader.ofBytes_bytes code
    simp only [control, final, large, Bool.not_true, Bool.and_false, Bool.true_and, if_false,
      decide_true, if_true, Bool.false_eq_true] at read
    simp only [decode, takeHeader, FrameHeader.bytes, List.cons_append, List.nil_append, read]
  | extensionMissing code legal short =>
    rw [decode_bytes code legal, takeExtension, Bytes.cut?_of_length_lt short]
  | @topBitSet header code legal high low key set size keySize rest =>
    have lengthBytes : (high :: low).length = header.lengthBytes := by
      rw [FrameHeader.lengthBytes, code, List.length_cons, size]
      rfl
    have beyond : Frame.maxPayload < header.announced ((high :: low) ++ key) := by
      rw [FrameHeader.announced, ← lengthBytes, List.take_left, List.length_cons, if_neg (by omega)]
      exact Nat.lt_of_not_le fun within =>
        absurd ((Bytes.readBe_le_maxPayload_iff high size).mp within) (UInt8.not_lt.mpr set)
    have taken := takeExtension_of_whole { limit } lengthBytes keySize rest
    rw [if_pos (.inl beyond)] at taken
    simp only [List.append_assoc] at taken ⊢
    rw [decode_bytes (by rw [code]; decide) legal, taken]
  | tooLarge legal form keySize large rest =>
    have taken := takeExtension_of_whole { limit } form.lengthBytes_eq.symm keySize rest
    rw [form.announced_eq, if_pos (.inr large)] at taken
    simp only [List.append_assoc] at taken ⊢
    rw [decode_bytes form.code_lt legal, taken]
  | payloadMissing legal form fits keyed short =>
    rename_i rest
    have taken := takeExtension_of_form form fits keyed rest
    simp only [List.append_assoc] at taken ⊢
    rw [decode_bytes form.code_lt legal, taken, takePayload, Bytes.cut?_of_length_lt short]

end

theorem Declines.outcome_ne_frame {limit : Nat} {buffer : Bytes} {decoded : Decoded}
    (declines : Declines limit buffer decoded) (frame : Frame) :
    decoded.outcome ≠ .ok (some frame) := by
  cases declines <;> nofun

/-- A fresh decoder that is given some bytes and whatever follows them gives a frame and leaves what
follows exactly when the bytes are a wire form of that frame. In general it gives the frame that the
buffer begins with, or else declines the buffer for the first reason that applies. -/
theorem decode_iff_isWire (limit : Nat) :
    (∀ frame wire rest,
      ({ limit } : Decoder).decode (wire ++ rest) = ⟨.ok (some frame), { limit }, rest⟩ ↔
        Frame.IsWire limit frame wire) ∧
    ∀ buffer decoded,
      ({ limit } : Decoder).decode buffer = decoded ↔
        (∃ frame wire rest, buffer = wire ++ rest ∧ Frame.IsWire limit frame wire ∧
          decoded = ⟨.ok (some frame), { limit }, rest⟩) ∨
        Declines limit buffer decoded := by
  have graph (buffer : Bytes) (decoded : Decoded) :
      ({ limit } : Decoder).decode buffer = decoded ↔
        (∃ frame wire rest, buffer = wire ++ rest ∧ Frame.IsWire limit frame wire ∧
          decoded = ⟨.ok (some frame), { limit }, rest⟩) ∨
        Declines limit buffer decoded := by
    constructor
    · rintro rfl
      rcases exists_isWire_or_declines limit buffer with
        ⟨frame, wire, rest, rfl, isWire⟩ | ⟨decoded, declines⟩
      · exact .inl ⟨frame, wire, rest, rfl, isWire, decode_of_isWire isWire rest⟩
      · rw [decode_of_declines declines]
        exact .inr declines
    · rintro (⟨frame, wire, rest, rfl, isWire, rfl⟩ | declines)
      · exact decode_of_isWire isWire rest
      · exact decode_of_declines declines
  refine ⟨fun frame wire rest => ⟨fun decoded => ?_, (decode_of_isWire · rest)⟩, graph⟩
  obtain ⟨other, front, behind, whole, isWire, same⟩ | declines := (graph _ _).mp decoded
  · cases same
    obtain rfl := List.append_cancel_right whole
    exact isWire
  · exact absurd rfl (declines.outcome_ne_frame frame)

/-- A length may travel in a longer form than it needs. -/
example :
    (({ limit := 2 } : Decoder).decode [0x82, 126, 0, 1, 7]).outcome = .ok (some (.binary [7])) :=
  rfl

end Decoder

end WebSocket
