import WebSocket.Http.HeadScanner

/-! # The end of a head that arrives in pieces

The end of a response head is the first empty line of all that has arrived, however it arrived. What
follows does not move an end that was found (`headLength?_append`), and where none was found the
search need not begin again from the front: three bytes before the end of what was searched is
enough (`headLength?_resume`). So a reader that found nothing yet stays one of which every byte was
searched (`HeadReader.read_incomplete`), and one that finds a head finds the end that is in all that
it was given (`HeadReader.read_complete`).
-/

namespace WebSocket.Http

/-- The end of a line and the empty line behind it. -/
def emptyLine : Bytes := [0x0D, 0x0A, 0x0D, 0x0A]

/-! ## The first empty line -/

theorem headLength?_go_cons (before : Nat) (byte : UInt8) (rest : Bytes) :
    headLength?.go before (byte :: rest) =
      if (byte :: rest).take 4 = emptyLine then some (before + 4)
      else headLength?.go (before + 1) rest := by
  rw [headLength?.go.eq_def]
  split
  · next found =>
    rw [found]
    rfl
  · next other whole =>
    obtain ⟨rfl, rfl⟩ := List.cons.inj whole
    rw [if_neg]
    intro starts
    have split : byte :: rest = emptyLine ++ (byte :: rest).drop 4 := by
      rw [← starts, List.take_append_drop]
    obtain ⟨first, later⟩ := List.cons.inj split
    exact other _ first later
  · next empty => cases empty

theorem headLength?_go (before : Nat) (bytes : Bytes) :
    headLength?.go before bytes = (headLength? bytes).map (before + ·) := by
  unfold headLength?
  induction bytes generalizing before with
  | nil => rfl
  | cons byte rest ih =>
    rw [headLength?_go_cons, headLength?_go_cons]
    split
    · simp
    · rw [ih (before + 1), ih (0 + 1), Option.map_map]
      congr 1
      funext length
      simp only [Function.comp_apply]
      omega

theorem headLength?_cons (byte : UInt8) (rest : Bytes) :
    headLength? (byte :: rest) =
      if (byte :: rest).take 4 = emptyLine then some 4 else (headLength? rest).map (1 + ·) := by
  rw [headLength?, headLength?_go_cons, headLength?_go]

/-- An empty line that is there takes four bytes. -/
theorem four_le_of_take {bytes : Bytes} (starts : bytes.take 4 = emptyLine) : 4 ≤ bytes.length := by
  have size := congrArg List.length starts
  rw [List.length_take, show emptyLine.length = 4 from rfl] at size
  omega

theorem bounds_of_headLength? {bytes : Bytes} {length : Nat}
    (found : headLength? bytes = some length) : 4 ≤ length ∧ length ≤ bytes.length := by
  induction bytes generalizing length with
  | nil => cases found
  | cons byte rest ih =>
    rw [headLength?_cons] at found
    split at found
    · next starts =>
      cases found
      exact ⟨Nat.le_refl 4, four_le_of_take starts⟩
    · obtain ⟨inner, inRest, rfl⟩ := Option.map_eq_some_iff.mp found
      obtain ⟨least, most⟩ := ih inRest
      rw [List.length_cons]
      omega

/-- Bytes behind a head do not move its end. -/
theorem headLength?_append {bytes : Bytes} {length : Nat} (more : Bytes)
    (found : headLength? bytes = some length) : headLength? (bytes ++ more) = some length := by
  induction bytes generalizing length with
  | nil => cases found
  | cons byte rest ih =>
    obtain ⟨least, most⟩ := bounds_of_headLength? found
    rw [List.cons_append, headLength?_cons, ← List.cons_append,
      List.take_append_of_le_length (Nat.le_trans least most)]
    rw [headLength?_cons] at found
    split at found
    · next starts => rwa [if_pos starts]
    · next other =>
      obtain ⟨inner, inRest, rfl⟩ := Option.map_eq_some_iff.mp found
      rw [if_neg other, ih inRest]
      rfl

/-- An end that lies within a part of the bytes is found in that part. -/
theorem headLength?_of_append {bytes more : Bytes} {length : Nat}
    (found : headLength? (bytes ++ more) = some length) (within : length ≤ bytes.length) :
    headLength? bytes = some length := by
  induction bytes generalizing length with
  | nil =>
    have bounds := bounds_of_headLength? found
    simp only [List.length_nil] at within
    omega
  | cons byte rest ih =>
    have four := (bounds_of_headLength? found).1
    have same : ((byte :: rest) ++ more).take 4 = (byte :: rest).take 4 :=
      List.take_append_of_le_length (Nat.le_trans four within)
    rw [List.cons_append, headLength?_cons, ← List.cons_append, same] at found
    rw [headLength?_cons]
    split at found
    · next starts => rwa [if_pos starts]
    · next other =>
      obtain ⟨inner, inRest, rfl⟩ := Option.map_eq_some_iff.mp found
      rw [List.length_cons] at within
      rw [if_neg other, ih inRest (by omega)]
      rfl

/-- After a search in vain, three bytes before its end are early enough to begin with. -/
theorem headLength?_resume {buffer : Bytes} (more : Bytes) (missing : headLength? buffer = none) :
    headLength? (buffer ++ more) =
      (headLength? ((buffer ++ more).drop (buffer.length - 3))).map (buffer.length - 3 + ·) := by
  induction buffer with
  | nil => simp
  | cons byte rest ih =>
    by_cases short : rest.length < 3
    · rw [show (byte :: rest).length - 3 = 0 by rw [List.length_cons]; omega]
      simp
    · rw [headLength?_cons] at missing
      split at missing
      · cases missing
      · next other =>
        have later := ih (Option.map_eq_none_iff.mp missing)
        have same : ((byte :: rest) ++ more).take 4 = (byte :: rest).take 4 :=
          List.take_append_of_le_length (by rw [List.length_cons]; omega)
        have next : (byte :: rest).length - 3 = rest.length - 3 + 1 := by
          rw [List.length_cons]
          omega
        rw [next, List.cons_append, List.drop_succ_cons, headLength?_cons, ← List.cons_append, same,
          if_neg other, later, Option.map_map]
        congr 1
        funext length
        simp only [Function.comp_apply]
        omega

/-! ## Readers -/

/-- What is behind the head, as far as there is a head. -/
def bodyOf (bytes : Bytes) : Bytes :=
  match headLength? bytes with
  | some length => bytes.drop length
  | none => []

namespace HeadScan

theorem ofHead_eq_complete_iff {bytes rest behind : Bytes} {head : ResponseHead} :
    ofHead bytes rest = .complete head behind ↔
      ResponseHead.parse? bytes = some head ∧ rest = behind := by
  rw [ofHead, ResponseHead.parse?]
  rcases ResponseHead.parse bytes with (_ | _) | found <;> simp [Except.toOption]

theorem isUnreadable_ofHead_iff {bytes rest : Bytes} :
    (ofHead bytes rest).isUnreadable = true ↔ ResponseHead.parse? bytes = none := by
  rw [ofHead, ResponseHead.parse?]
  rcases ResponseHead.parse bytes with (_ | _) | found <;> simp [Except.toOption, isUnreadable]

theorem ofHead_ne_incomplete (bytes rest : Bytes) (scanner : HeadScanner) :
    ofHead bytes rest ≠ .incomplete scanner := by
  unfold ofHead
  split <;> nofun

theorem ofHead_ne_tooLong (bytes rest : Bytes) : ofHead bytes rest ≠ .tooLong := by
  unfold ofHead
  split <;> nofun

end HeadScan

namespace HeadReader

/-- Every byte of the buffer was looked at, and no empty line found. -/
structure Clean (reader : HeadReader) : Prop where
  scanned : reader.scanner.scanned = reader.buffer.length
  missing : headLength? reader.buffer = none

theorem clean_empty : ({} : HeadReader).Clean := ⟨rfl, rfl⟩

variable {reader after : HeadReader} {bytes unread : Bytes}

/-- What a read takes into the buffer and what it leaves is all that there was. -/
theorem buffer_read (reader : HeadReader) (bytes : Bytes) :
    (reader.read bytes).2.1.buffer ++ (reader.read bytes).2.2 = reader.buffer ++ bytes := by
  simp only [read, List.splitAt_eq, List.append_assoc, List.take_append_drop]

/-- A clean reader finds what is to be found in its buffer. -/
theorem Clean.scan_eq (clean : reader.Clean) (taken : Bytes) :
    reader.scanner.scan (reader.buffer ++ taken) =
      match headLength? (reader.buffer ++ taken) with
      | some length =>
        .ofHead ((reader.buffer ++ taken).take length) ((reader.buffer ++ taken).drop length)
      | none =>
        if maxHead < (reader.buffer ++ taken).length then .tooLong
        else .incomplete ⟨(reader.buffer ++ taken).length⟩ := by
  rw [headLength?_resume taken clean.missing, HeadScanner.scan, clean.scanned]
  simp only [List.splitAt_eq]
  cases headLength? ((reader.buffer ++ taken).drop (reader.buffer.length - 3)) <;> rfl

theorem Clean.scan_incomplete (clean : reader.Clean) {taken : Bytes} {scanner : HeadScanner}
    (found : reader.scanner.scan (reader.buffer ++ taken) = .incomplete scanner) :
    scanner.scanned = (reader.buffer ++ taken).length ∧
      headLength? (reader.buffer ++ taken) = none := by
  rw [clean.scan_eq] at found
  split at found
  · exact absurd found (HeadScan.ofHead_ne_incomplete _ _ _)
  · next missing =>
    split at found
    · cases found
    · cases found
      exact ⟨rfl, missing⟩

/-- A reader that found nothing is clean again. -/
theorem Clean.read_incomplete (clean : reader.Clean) {scanner : HeadScanner}
    (read : reader.read bytes = (.incomplete scanner, after, unread)) :
    after.Clean ∧ after.buffer ++ unread = reader.buffer ++ bytes := by
  have whole := reader.buffer_read bytes
  rw [read] at whole
  refine ⟨?_, whole⟩
  simp only [HeadReader.read, List.splitAt_eq, Prod.mk.injEq] at read
  obtain ⟨found, rfl, -⟩ := read
  obtain ⟨scanned, missing⟩ := clean.scan_incomplete found
  refine ⟨?_, missing⟩
  simp only [found]
  exact scanned

/-- An end that is found in the buffer is the end in all that the reader was given. -/
theorem headLength?_taken {length : Nat}
    (ends : headLength? (reader.buffer ++
      bytes.take (reader.nextCapacity - reader.buffer.length)) = some length) :
    headLength? (reader.buffer ++ bytes) = some length ∧
      (reader.buffer ++ bytes).take length =
        (reader.buffer ++ bytes.take (reader.nextCapacity - reader.buffer.length)).take length ∧
      (reader.buffer ++ bytes).drop length =
        (reader.buffer ++ bytes.take (reader.nextCapacity - reader.buffer.length)).drop length ++
          bytes.drop (reader.nextCapacity - reader.buffer.length) := by
  obtain ⟨-, fits⟩ := bounds_of_headLength? ends
  have whole : reader.buffer ++ bytes =
      (reader.buffer ++ bytes.take (reader.nextCapacity - reader.buffer.length)) ++
        bytes.drop (reader.nextCapacity - reader.buffer.length) := by
    rw [List.append_assoc, List.take_append_drop]
  rw [whole]
  exact ⟨headLength?_append _ ends, List.take_append_of_le_length fits,
    List.drop_append_of_le_length fits⟩

/-- A reader that found a head found the end that is in all that it was given. -/
theorem Clean.read_complete (clean : reader.Clean) {head : ResponseHead} {rest : Bytes}
    (read : reader.read bytes = (.complete head rest, after, unread)) :
    ∃ length, headLength? (reader.buffer ++ bytes) = some length ∧
      ResponseHead.parse? ((reader.buffer ++ bytes).take length) = some head ∧
      rest ++ unread = (reader.buffer ++ bytes).drop length := by
  simp only [HeadReader.read, List.splitAt_eq, Prod.mk.injEq] at read
  obtain ⟨found, -, rfl⟩ := read
  rw [clean.scan_eq] at found
  split at found
  · next length ends =>
    obtain ⟨parsed, rfl⟩ := HeadScan.ofHead_eq_complete_iff.mp found
    obtain ⟨inAll, front, behind⟩ := headLength?_taken ends
    exact ⟨length, inAll, by rw [front, parsed], behind.symm⟩
  · split at found <;> cases found

/-- A reader that found a head which cannot be read found the end that is in all that it was
given. -/
theorem Clean.read_unreadable (clean : reader.Clean)
    (read : (reader.read bytes).1.isUnreadable = true) :
    ∃ length, headLength? (reader.buffer ++ bytes) = some length ∧
      ResponseHead.parse? ((reader.buffer ++ bytes).take length) = none := by
  simp only [HeadReader.read, List.splitAt_eq] at read
  rw [clean.scan_eq] at read
  split at read
  · next length ends =>
    obtain ⟨inAll, front, -⟩ := headLength?_taken ends
    exact ⟨length, inAll, by rw [front, HeadScan.isUnreadable_ofHead_iff.mp read]⟩
  · split at read <;> cases read

/-- A reader gives up only when no head of the size that is allowed can follow any more. -/
theorem Clean.read_tooLong (clean : reader.Clean) (read : (reader.read bytes).1 = .tooLong)
    {more : Bytes} {length : Nat}
    (found : headLength? (reader.buffer ++ bytes ++ more) = some length) : maxHead < length := by
  simp only [HeadReader.read, List.splitAt_eq] at read
  rw [clean.scan_eq] at read
  split at read
  · exact absurd read (HeadScan.ofHead_ne_tooLong _ _)
  · next missing =>
    split at read
    · next full =>
      refine Nat.lt_of_not_le fun small => ?_
      have whole := List.take_append_drop (reader.nextCapacity - reader.buffer.length) bytes
      rw [← whole, ← List.append_assoc reader.buffer, List.append_assoc] at found
      rw [headLength?_of_append found (by omega)] at missing
      cases missing
    · cases read

end HeadReader

/-- What is behind a head grows with what arrives. -/
theorem bodyOf_append {bytes : Bytes} {length : Nat} (more : Bytes)
    (found : headLength? bytes = some length) :
    bodyOf (bytes ++ more) = bytes.drop length ++ more := by
  obtain ⟨-, fits⟩ := bounds_of_headLength? found
  rw [bodyOf, headLength?_append more found]
  exact List.drop_append_of_le_length fits

end WebSocket.Http
