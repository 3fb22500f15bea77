import WebSocket.Proofs.Messages

/-! # Close frames

How a close frame is judged, by the numbers of its status code and the text behind it
(`closeFault?_eq`), and what is read back from one that was made of a code and a reason
(`Frame.closeCode?_close`, `Frame.closeReason?_close`). The echo repeats the two bytes of the code
as they came, so that it is accepted and answered with itself (`Frame.controlAnswer_of_close`).
-/

namespace WebSocket

namespace CloseCode

/-- The numbers that are no status code of a close frame that travels. -/
def NeverTravels (number : Nat) : Prop :=
  number < 1000 ∨ 1004 ≤ number ∧ number ≤ 1006 ∨ 1014 ≤ number ∧ number ≤ 2999 ∨ 4999 < number

instance : DecidablePred NeverTravels :=
  fun _ => inferInstanceAs (Decidable (_ ∨ _))

theorem isAllowed_ofUInt16_iff (code : UInt16) :
    (ofUInt16 code).isAllowed = true ↔ ¬ NeverTravels code.toNat := by
  unfold ofUInt16
  split
  case h_15 =>
    -- What is left are the ranges, with the numbers of a meaning of their own taken out.
    simp only [UInt16.lt_iff_toNat_lt, ← UInt16.toNat_inj, UInt16.reduceToNat, imp_false,
      NeverTravels] at *
    split
    · exact iff_of_false nofun (not_not.mpr (by omega))
    split
    · exact iff_of_false nofun (not_not.mpr (by omega))
    split
    · exact iff_of_true rfl (by omega)
    split
    · exact iff_of_true rfl (by omega)
    · exact iff_of_false nofun (not_not.mpr (by omega))
  all_goals decide

end CloseCode

namespace Bytes

/-- Whether the bytes are those of some text. -/
def IsText (bytes : Bytes) : Prop :=
  ∃ text, ofString text = bytes

theorem isUtf8_iff_isText {bytes : Bytes} : bytes.isUtf8 = true ↔ bytes.IsText := by
  constructor
  · intro valid
    obtain ⟨text, -, same⟩ := exists_text_of_isUtf8 valid
    exact ⟨text, same⟩
  · rintro ⟨text, rfl⟩
    exact isUtf8_ofString text

instance : DecidablePred IsText :=
  fun _ => decidable_of_iff _ isUtf8_iff_isText

end Bytes

/-! ## Judging a close frame -/

/-- What is wrong with the payload of a close frame, by its length, its number and its text. -/
theorem closeFault?_eq (payload : Bytes) :
    closeFault? payload =
      if payload.length = 1 then some .truncatedCloseCode
      else if payload ≠ [] ∧ CloseCode.NeverTravels (Bytes.readBe (payload.take 2)) then
        some .forbiddenCloseCode
      else if ¬ Bytes.IsText (payload.drop 2) then some .notUtf8
      else none := by
  match payload with
  | [] =>
    have empty : Bytes.IsText [] := ⟨"", rfl⟩
    simp [closeFault?, empty]
  | [_] => rfl
  | high :: low :: reason =>
    have several : (high :: low :: reason).length ≠ 1 := by simp
    have code := CloseCode.isAllowed_ofUInt16_iff (.ofNat (Bytes.readBe [high, low]))
    rw [Bytes.toNat_ofNat_readBe] at code
    rw [closeFault?, if_neg several]
    simp only [List.take_succ_cons, List.take_zero, List.drop_succ_cons, List.drop_zero,
      ne_eq, reduceCtorEq, not_false_eq_true, true_and, Bool.not_eq_true', ← Bool.not_eq_true, code,
      Bytes.isUtf8_iff_isText, not_not]

namespace Frame

variable {frame : Frame}

/-- A close frame is refused for its fault, or else answered with its status code. -/
theorem controlAnswer_eq_of_close (closes : frame.opcode = .close) (emptyPong : Bool) :
    frame.controlAnswer emptyPong =
      match closeFault? frame.payload with
      | some cause => .error cause
      | none => .ok (some (.close (.closeRaw (frame.payload.take 2)))) := by
  rw [controlAnswer, closes]
  dsimp only
  rw [closeEcho_eq]
  cases closeFault? frame.payload <;> rfl

/-- Without its reason, a payload without fault is still without fault. -/
theorem closeFault?_take {payload : Bytes} (fine : closeFault? payload = none) :
    closeFault? (payload.take 2) = none := by
  match payload with
  | [] => rfl
  | [_] => cases fine
  | high :: low :: reason =>
    rw [closeFault?] at fine
    split at fine
    · cases fine
    · next allowed =>
      have empty : Bytes.isUtf8 [] = true := Bytes.isUtf8_iff_isText.mpr ⟨"", rfl⟩
      simp only [List.take_succ_cons, List.take_zero, closeFault?, if_neg allowed, empty,
        Bool.not_true, Bool.false_eq_true, if_false]

/-! ## Reading a close frame back -/

theorem closeCode?_close (code : CloseCode) (reason : Bytes) :
    (close code reason).closeCode? = some (.ofUInt16 code.toUInt16) := by
  obtain ⟨high, low, bytes, read⟩ := code.exists_bytes
  rw [closeCode?, close, closeRaw, bytes]
  simp only [List.cons_append, read]

theorem closeReason?_close (code : CloseCode) (reason : Bytes) :
    (close code reason).closeReason? = Bytes.text? reason := rfl

/-- A close frame is refused if its payload is half a status code, or else if its code never
travels, or else if what is behind the code is no text. Otherwise it is echoed with the two bytes of
its code, if it has one, and the echo is answered with itself. A close frame that was made of a code
and a text is read back as the number of that code and that text. -/
theorem controlAnswer_of_close (closes : frame.opcode = .close) (emptyPong : Bool) :
    (frame.controlAnswer emptyPong =
      if frame.payload.length = 1 then .error .truncatedCloseCode
      else if frame.payload ≠ [] ∧
          CloseCode.NeverTravels (Bytes.readBe (frame.payload.take 2)) then
        .error .forbiddenCloseCode
      else if ¬ Bytes.IsText (frame.payload.drop 2) then .error .notUtf8
      else .ok (some (.close (.closeRaw (frame.payload.take 2))))) ∧
    (∀ echo again, frame.controlAnswer emptyPong = .ok (some (.close echo)) →
      echo.controlAnswer again = .ok (some (.close echo))) ∧
    ∀ (code : CloseCode) (reason : String),
      ((close code (Bytes.ofString reason)).closeCode?.map CloseCode.toUInt16 =
          some code.toUInt16) ∧
        (close code (Bytes.ofString reason)).closeReason? = some reason := by
  have answer := controlAnswer_eq_of_close closes emptyPong
  refine ⟨?_, ?_, ?_⟩
  · rw [answer, closeFault?_eq]
    split_ifs <;> rfl
  · intro echo again echoes
    rw [answer] at echoes
    cases fault : closeFault? frame.payload with
    | some cause => simp [fault] at echoes
    | none =>
      simp only [fault, Except.ok.injEq, Option.some.injEq, ControlAnswer.close.injEq] at echoes
      subst echoes
      rw [controlAnswer_eq_of_close rfl]
      simp only [closeRaw, closeFault?_take fault, List.take_take, Nat.min_self]
  · intro code reason
    rw [closeCode?_close, closeReason?_close, Bytes.text?_ofString]
    exact ⟨congrArg some (CloseCode.toUInt16_ofUInt16 _), rfl⟩

/-- A masked close frame with the code 3000 and a reason of one character that takes two bytes. -/
def farewell : Frame :=
  { closeRaw [0x0B, 0xB8, 0xC3, 0xA9] with mask := some ⟨1, 2, 3, 4⟩ }

theorem controlAnswer_of_farewell :
    farewell.opcode = .close ∧
    farewell.controlAnswer false = .ok (some (.close (.closeRaw [0x0B, 0xB8]))) ∧
    (closeRaw [0x0B, 0xB8]).controlAnswer true =
      .ok (some (.close (.closeRaw [0x0B, 0xB8]))) ∧
    (close (.registered 3000) (Bytes.ofString "é")).closeReason? = some "é" := by
  have closes : farewell.opcode = .close := rfl
  obtain ⟨answer, stable, reads⟩ := controlAnswer_of_close closes false
  have text : Bytes.IsText (farewell.payload.drop 2) := ⟨"é", by decide⟩
  have echoes : farewell.controlAnswer false = .ok (some (.close (.closeRaw [0x0B, 0xB8]))) := by
    rw [answer, if_neg (by decide), if_neg (by decide), if_neg (not_not.mpr text)]
    rfl
  exact ⟨closes, echoes, stable _ true echoes, (reads (.registered 3000) "é").2⟩

end Frame

end WebSocket
