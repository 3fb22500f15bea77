import Mathlib.Order.Basic
import WebSocket.Proofs.Http.Lines

/-! # The size limit of a response head

A scanner that is shown the buffer after each piece gives up when it sees more than `maxHead` bytes
of a head without its end, and it looks for the end first. So a head of more than `maxHead` bytes is
refused for its size exactly when a cut shows that much of it before its end; in all other cases it
is read, as if there were no limit (`scanPieces_of_head`).
-/

namespace WebSocket.Http

/-- Whether a head is refused. -/
def HeadScan.isRefusal : HeadScan → Bool
  | .malformed _ | .tooLong => true
  | .incomplete _ | .complete .. | .overflow => false

/-- Shows the buffer to a scanner after each piece, up to the first result. Gives the result and the
pieces that are left. -/
def HeadScanner.scanPieces (scanner : HeadScanner) (buffer : Bytes) :
    List Bytes → HeadScan × List Bytes
  | [] => (.incomplete scanner, [])
  | piece :: later =>
    match scanner.scan (buffer ++ piece) with
    | .incomplete scanner => scanner.scanPieces (buffer ++ piece) later
    | found => (found, later)

/-- The first look that decides gives the result. -/
theorem HeadScanner.scanPieces_of_decided {scanner : HeadScanner} {buffer piece : Bytes}
    {later : List Bytes} {found : HeadScan} (look : scanner.scan (buffer ++ piece) = found)
    (decided : ∀ next, found ≠ .incomplete next) :
    scanner.scanPieces buffer (piece :: later) = (found, later) := by
  rw [scanPieces, look]
  cases found with
  | incomplete next => exact absurd rfl (decided next)
  | complete | malformed | overflow | tooLong => rfl

/-- Whether after one of the pieces there are more bytes than a head may have, but not yet all of
this one. -/
def Overruns (before : Nat) (pieces : List Bytes) (length : Nat) : Prop :=
  ∃ early, early <+: pieces ∧ maxHead < before + early.flatten.length ∧
    before + early.flatten.length < length

variable {pieces : List Bytes} {length : Nat}

/-- A head that arrives in one piece is not overrun. -/
theorem not_overruns_singleton {bytes : Bytes} (fits : length ≤ bytes.length) :
    ¬ Overruns 0 [bytes] length := by
  rintro ⟨early, isPrefix, more, less⟩
  rcases List.prefix_cons_iff.mp isPrefix with rfl | ⟨rest, rfl, nothing⟩
  · simp at more
  · rw [List.prefix_nil] at nothing
    subst nothing
    simp at less
    omega

theorem overruns_cons {before : Nat} {piece : Bytes} (small : before ≤ maxHead) :
    Overruns before (piece :: pieces) length ↔ Overruns (before + piece.length) pieces length := by
  constructor
  · rintro ⟨early, isPrefix, more, less⟩
    rcases List.prefix_cons_iff.mp isPrefix with rfl | ⟨rest, rfl, isRest⟩
    · simp only [List.flatten_nil, List.length_nil] at more
      omega
    · simp only [List.flatten_cons, List.length_append] at more less
      exact ⟨rest, isRest, by omega, by omega⟩
  · rintro ⟨early, isPrefix, more, less⟩
    refine ⟨piece :: early, List.cons_prefix_cons.mpr ⟨rfl, isPrefix⟩, ?_, ?_⟩
    all_goals
      simp only [List.flatten_cons, List.length_append]
      omega

namespace HeadReader

variable {reader : HeadReader}

/-- The pieces that are shown to a clean reader up to the first result: either they overrun the
head, or they are read up to the end of the head. -/
theorem Clean.scanPieces_cases (clean : reader.Clean) (small : reader.buffer.length ≤ maxHead)
    (found : headLength? (reader.buffer ++ pieces.flatten) = some length) :
    (Overruns reader.buffer.length pieces length ∧
      (reader.scanner.scanPieces reader.buffer pieces).1 = .tooLong) ∨
    ¬ Overruns reader.buffer.length pieces length ∧
      ∃ rest later, rest ++ later.flatten = (reader.buffer ++ pieces.flatten).drop length ∧
        reader.scanner.scanPieces reader.buffer pieces =
          (.ofHead ((reader.buffer ++ pieces.flatten).take length) rest, later) := by
  induction pieces generalizing reader with
  | nil =>
    rw [List.flatten_nil, List.append_nil, clean.missing] at found
    cases found
  | cons piece later ih =>
    have scan := clean.scan_eq piece
    rw [overruns_cons small]
    rw [List.flatten_cons, ← List.append_assoc] at found ⊢
    cases ends : headLength? (reader.buffer ++ piece) with
    | some inner =>
      obtain rfl : inner = length := by
        rw [headLength?_append _ ends] at found
        exact Option.some.inj found
      obtain ⟨-, fits⟩ := bounds_of_headLength? ends
      have scanned : reader.scanner.scan (reader.buffer ++ piece) =
          .ofHead ((reader.buffer ++ piece).take inner) ((reader.buffer ++ piece).drop inner) := by
        rw [scan, ends]
      refine .inr ⟨?_, (reader.buffer ++ piece).drop inner, later, ?_, ?_⟩
      · rintro ⟨early, -, -, less⟩
        rw [List.length_append] at fits
        omega
      · rw [List.drop_append_of_le_length fits]
      · rw [List.take_append_of_le_length fits]
        exact HeadScanner.scanPieces_of_decided scanned (HeadScan.ofHead_ne_incomplete _ _)
    | none =>
      have beyond : (reader.buffer ++ piece).length < length := by
        by_contra within
        rw [headLength?_of_append found (Nat.le_of_not_lt within)] at ends
        cases ends
      rw [ends] at scan
      dsimp only at scan
      rw [List.length_append] at beyond
      split at scan
      · next many =>
        rw [List.length_append] at many
        refine .inl ⟨⟨[], List.nil_prefix, many, beyond⟩, ?_⟩
        rw [HeadScanner.scanPieces_of_decided scan nofun]
      · next few =>
        let next : HeadReader :=
          { reader with
            buffer := reader.buffer ++ piece
            scanner := ⟨(reader.buffer ++ piece).length⟩ }
        have stillClean : next.Clean := ⟨rfl, ends⟩
        have rest := ih stillClean (Nat.le_of_not_lt few) found
        rw [HeadScanner.scanPieces, scan]
        rwa [List.length_append] at rest

end HeadReader

/-- Pieces with a head in them either overrun it or are read up to its end. -/
theorem scanPieces_cases (found : headLength? pieces.flatten = some length) :
    (Overruns 0 pieces length ∧ (HeadScanner.scanPieces {} [] pieces).1 = .tooLong) ∨
    ¬ Overruns 0 pieces length ∧
      ∃ rest later, rest ++ later.flatten = pieces.flatten.drop length ∧
        HeadScanner.scanPieces {} [] pieces =
          (.ofHead (pieces.flatten.take length) rest, later) :=
  HeadReader.clean_empty.scanPieces_cases (Nat.zero_le _) found

/-- Pieces with a head in them are refused for their size as soon as they overrun the head.
Otherwise the head is read, and nothing behind it is lost: what stands behind it in its last piece
and the pieces that are left are all that follows it. -/
theorem scanPieces_of_head (found : headLength? pieces.flatten = some length) :
    (Overruns 0 pieces length → (HeadScanner.scanPieces {} [] pieces).1 = .tooLong) ∧
    (¬ Overruns 0 pieces length →
      ∃ rest later, rest ++ later.flatten = pieces.flatten.drop length ∧
        HeadScanner.scanPieces {} [] pieces =
          (.ofHead (pieces.flatten.take length) rest, later)) := by
  rcases scanPieces_cases found with ⟨overruns, tooLong⟩ | ⟨fits, read⟩
  · exact ⟨fun _ => tooLong, fun fits => absurd overruns fits⟩
  · exact ⟨fun overruns => absurd overruns fits, fun _ => read⟩

/-! ## Heads of any size -/

/-- A head with a reason of so many letters, and no header lines. -/
def wordyHead (size : Nat) : HeadText where
  status := {
    version := [0x31, 0x2E, 0x31]
    gap := [0x20]
    digits := [0x31, 0x30, 0x31]
    reason := 0x20 :: List.replicate size 0x61
    version_nonempty := by decide
    version_all := by decide
    gap_nonempty := by decide
    gap_all := by decide
    digits_nonempty := by decide
    digits_all := by decide
    status_small := by decide
    reason_stops := fun _ first => by cases first; rfl
    reason_line := fun _ member => by
      rcases List.mem_cons.mp member with rfl | letter
      · rfl
      · rw [List.eq_of_mem_replicate letter]
        rfl }
  lines := []

/-- The one line of such a head. -/
def wordyLine (size : Nat) : Bytes :=
  Bytes.ofString "HTTP/1.1 101 " ++ List.replicate size 0x61

theorem length_wordyLine (size : Nat) : (wordyLine size).length = 13 + size := by
  have start : (Bytes.ofString "HTTP/1.1 101 ").length = 13 := by decide
  rw [wordyLine, List.length_append, start, List.length_replicate]

theorem bytes_wordyHead (size : Nat) : (wordyHead size).bytes = wordyLine size ++ emptyLine := by
  have start : Bytes.ofString "HTTP/1.1 101 " =
      Bytes.ofString "HTTP/" ++ [0x31, 0x2E, 0x31, 0x20, 0x31, 0x30, 0x31, 0x20] := by decide
  rw [wordyLine, start]
  simp [HeadText.bytes, StatusLine.bytes, wordyHead, emptyLine, crlf]

theorem headLength?_wordyHead (size : Nat) :
    headLength? (wordyHead size).bytes = some (size + 17) := by
  have keeps : KeepsLine (wordyLine size) := by
    refine keepsLine_append.mpr ⟨by decide, fun byte member => ?_⟩
    rw [List.eq_of_mem_replicate member]
    rfl
  have ends := headLength?_append_crlf keeps.not_isInfix crlf
  rw [if_pos List.prefix_rfl, List.append_assoc, length_wordyLine] at ends
  rw [bytes_wordyHead]
  exact ends.trans (congrArg some (by omega))

/-- A head that is too long is refused when it is cut before its end. -/
theorem scanPieces_of_cut_wordyHead :
    let pieces := [wordyLine maxHead, emptyLine]
    headLength? pieces.flatten = some (maxHead + 17) ∧ Overruns 0 pieces (maxHead + 17) ∧
      (HeadScanner.scanPieces {} [] pieces).1 = .tooLong := by
  intro pieces
  have whole : pieces.flatten = (wordyHead maxHead).bytes := by
    rw [bytes_wordyHead]
    simp [pieces]
  have found : headLength? pieces.flatten = some (maxHead + 17) := by
    rw [whole, headLength?_wordyHead]
  have overruns : Overruns 0 pieces (maxHead + 17) := by
    refine ⟨[wordyLine maxHead], List.prefix_append [wordyLine maxHead] [emptyLine], ?_, ?_⟩
    all_goals
      rw [List.flatten_singleton, length_wordyLine]
      omega
  exact ⟨found, overruns, (scanPieces_of_head found).1 overruns⟩

/-- Whatever its size, a head that arrives in one piece is read. -/
theorem scanPieces_wordyHead (size : Nat) :
    ∃ head rest,
      (HeadScanner.scanPieces {} [] [(wordyHead size).bytes]).1 = .complete head rest := by
  have ends := headLength?_wordyHead size
  have whole : size + 17 = (wordyHead size).bytes.length := by
    rw [bytes_wordyHead, List.length_append, length_wordyLine]
    simp only [emptyLine, List.length_cons, List.length_nil]
    omega
  have found : headLength? [(wordyHead size).bytes].flatten = some (size + 17) := by
    rw [List.flatten_singleton, ends]
  have fits : ¬ Overruns 0 [(wordyHead size).bytes] (size + 17) :=
    not_overruns_singleton (Nat.le_of_eq whole)
  obtain ⟨overruns, -⟩ | ⟨-, rest, later, -, read⟩ := scanPieces_cases found
  · exact absurd overruns fits
  have parsed : ResponseHead.parse (wordyHead size).bytes = .ok ((wordyHead size).headOf {}) :=
    (wordyHead size).parse_bytes
  rw [List.flatten_singleton, whole, List.take_length, HeadScan.ofHead, parsed] at read
  exact ⟨_, rest, by rw [read]⟩

/-- A head that is too long is read when it arrives in one piece. -/
theorem not_forall_scanPieces_refuses :
    ¬ ∀ {pieces : List Bytes} {length : Nat}, headLength? pieces.flatten = some length →
      maxHead < length → (HeadScanner.scanPieces {} [] pieces).1.isRefusal = true := by
  intro all
  obtain ⟨head, rest, read⟩ := scanPieces_wordyHead maxHead
  have found : headLength? [(wordyHead maxHead).bytes].flatten = some (maxHead + 17) := by
    rw [List.flatten_singleton, headLength?_wordyHead]
  have refused := all found (by omega)
  rw [read] at refused
  cases refused

end WebSocket.Http
