import WebSocket.Proofs.Http.HeadLimit

/-! # Heads whatever the cuts

Where a head ends is said without a search (`EndsAt`): behind the first empty line of all that
arrives. A scanner that is shown the buffer after each piece finds nothing in what is shorter than
the head, and finds the head with the first piece that reaches its end, wherever the pieces were cut
(`scanPieces_cuts`); without an empty line it waits until the buffer is too large. No look reads
outside of the buffer (`HeadScanner.ReadsInside`).
-/

namespace WebSocket.Http

/-! ## Where a head ends -/

/-- The first empty line of the bytes ends behind so many of them. -/
def EndsAt (bytes : Bytes) (length : Nat) : Prop :=
  length ≤ bytes.length ∧ emptyLine <:+ bytes.take length ∧
    ∀ shorter < length, ¬ emptyLine <:+ bytes.take shorter

variable {bytes : Bytes} {length : Nat}

theorem isPrefix_emptyLine_iff : emptyLine <+: bytes ↔ bytes.take 4 = emptyLine := by
  rw [List.prefix_iff_eq_take]
  exact eq_comm

theorem headLength?_eq_none_iff : headLength? bytes = none ↔ ¬ emptyLine <:+: bytes := by
  induction bytes with
  | nil => exact ⟨fun _ => by decide, fun _ => rfl⟩
  | cons byte rest ih =>
    rw [headLength?_cons, List.infix_cons_iff, isPrefix_emptyLine_iff, not_or, ← ih]
    split
    · next starts => simp [starts]
    · next other => simp only [other, Option.map_eq_none_iff, not_false_eq_true, true_and]

/-- The empty line that is found ends where it is found. -/
theorem isSuffix_of_headLength? (found : headLength? bytes = some length) :
    emptyLine <:+ bytes.take length := by
  induction bytes generalizing length with
  | nil => cases found
  | cons byte rest ih =>
    rw [headLength?_cons] at found
    split at found
    · next starts =>
      cases found
      rw [starts]
    · obtain ⟨inner, inRest, rfl⟩ := Option.map_eq_some_iff.mp found
      rw [Nat.add_comm, List.take_succ_cons]
      exact (ih inRest).trans (List.suffix_cons ..)

/-- The search finds the first empty line. -/
theorem headLength?_eq_some_iff : headLength? bytes = some length ↔ EndsAt bytes length := by
  have first {found : Nat} (search : headLength? bytes = some found) : EndsAt bytes found := by
    refine ⟨(bounds_of_headLength? search).2, isSuffix_of_headLength? search, ?_⟩
    intro shorter less ends
    have inside := headLength?_eq_none_iff.not_left.mpr ends.isInfix
    obtain ⟨inner, early⟩ := Option.ne_none_iff_exists'.mp inside
    have whole := headLength?_append (bytes.drop shorter) early
    rw [List.take_append_drop, search] at whole
    cases whole
    have bound := (bounds_of_headLength? early).2
    rw [List.length_take] at bound
    omega
  refine ⟨first, fun ends => ?_⟩
  obtain ⟨-, suffix, minimal⟩ := ends
  have inside : emptyLine <:+: bytes := suffix.isInfix.trans (List.take_prefix ..).isInfix
  obtain ⟨found, search⟩ :=
    Option.ne_none_iff_exists'.mp (headLength?_eq_none_iff.not_left.mpr inside)
  obtain ⟨-, ends, earliest⟩ := first search
  have notLess : ¬ found < length := fun less => minimal found less ends
  have notMore : ¬ length < found := fun more => earliest length more suffix
  rw [search, Nat.le_antisymm (Nat.le_of_not_lt notMore) (Nat.le_of_not_lt notLess)]

/-! ## Looks at a growing buffer -/

/-- A look at bytes of which the first ones were looked at before and hold no empty line. -/
theorem scan_of_missing {early : Bytes} (missing : headLength? early = none) (piece : Bytes) :
    (HeadScanner.mk early.length).scan (early ++ piece) =
      match headLength? (early ++ piece) with
      | some length => .ofHead ((early ++ piece).take length) ((early ++ piece).drop length)
      | none =>
        if maxHead < (early ++ piece).length then .tooLong
        else .incomplete ⟨(early ++ piece).length⟩ := by
  have clean : HeadReader.Clean { buffer := early, scanner := ⟨early.length⟩ } := ⟨rfl, missing⟩
  exact clean.scan_eq piece

theorem headLength?_eq_none_of_append {early later : Bytes}
    (missing : headLength? (early ++ later) = none) : headLength? early = none := by
  cases found : headLength? early with
  | none => rfl
  | some length =>
    rw [headLength?_append later found] at missing
    cases missing

/-- There is no empty line in what is shorter than the head. -/
theorem headLength?_eq_none_of_lt {early later : Bytes} {length : Nat}
    (ends : headLength? (early ++ later) = some length) (before : early.length < length) :
    headLength? early = none := by
  cases found : headLength? early with
  | none => rfl
  | some inner =>
    have bound := (bounds_of_headLength? found).2
    rw [headLength?_append later found] at ends
    cases ends
    omega

/-- Nothing is found as long as there is no empty line and the buffer is not too large, and then the
looks go on from there. -/
theorem scanPieces_append (buffer : Bytes) {early : List Bytes}
    (missing : headLength? (buffer ++ early.flatten) = none)
    (small : (buffer ++ early.flatten).length ≤ maxHead) (later : List Bytes) :
    (HeadScanner.mk buffer.length).scanPieces buffer (early ++ later) =
      (HeadScanner.mk (buffer ++ early.flatten).length).scanPieces (buffer ++ early.flatten)
        later := by
  induction early generalizing buffer with
  | nil => simp
  | cons piece early ih =>
    rw [List.flatten_cons, ← List.append_assoc] at missing small ⊢
    have soFar := headLength?_eq_none_of_append missing
    have fits : ¬ maxHead < (buffer ++ piece).length := by
      rw [List.length_append] at small
      omega
    have look := scan_of_missing (headLength?_eq_none_of_append soFar) piece
    simp only [soFar, if_neg fits] at look
    rw [List.cons_append, HeadScanner.scanPieces, look]
    exact ih _ missing small

theorem scanPieces_of_missing {early : List Bytes} (missing : headLength? early.flatten = none)
    (small : early.flatten.length ≤ maxHead) :
    HeadScanner.scanPieces {} [] early = (.incomplete ⟨early.flatten.length⟩, []) := by
  have run := scanPieces_append [] missing small []
  rw [List.append_nil] at run
  exact run

/-- The first piece with which something is to be found decides. -/
theorem scanPieces_of_decisive {early later : List Bytes} {piece : Bytes}
    (missing : headLength? early.flatten = none) (small : early.flatten.length ≤ maxHead)
    {found : HeadScan} (decided : ∀ scanner, found ≠ .incomplete scanner)
    (look : (HeadScanner.mk early.flatten.length).scan (early.flatten ++ piece) = found) :
    HeadScanner.scanPieces {} [] (early ++ piece :: later) = (found, later) := by
  have run := scanPieces_append [] missing small (piece :: later)
  exact run.trans (HeadScanner.scanPieces_of_decided look decided)

/-- The piece that reaches the end of a head shows it. -/
theorem scanPieces_of_reaching {early later : List Bytes} {piece : Bytes} {length : Nat}
    (ends : headLength? (early ++ piece :: later).flatten = some length) (small : length ≤ maxHead)
    (before : early.flatten.length < length) (reaches : length ≤ (early.flatten ++ piece).length) :
    HeadScanner.scanPieces {} [] (early ++ piece :: later) =
      (.ofHead ((early ++ piece :: later).flatten.take length)
        ((early.flatten ++ piece).drop length), later) := by
  have whole : (early ++ piece :: later).flatten = early.flatten ++ piece ++ later.flatten := by
    simp
  rw [whole] at ends ⊢
  have here := headLength?_of_append ends reaches
  have missing := headLength?_eq_none_of_lt here before
  have look := scan_of_missing missing piece
  simp only [here] at look
  rw [List.take_append_of_le_length reaches]
  exact scanPieces_of_decisive missing (by omega) (HeadScan.ofHead_ne_incomplete _ _) look

/-! ## Where a look reads -/

/-- A look begins inside of the buffer or right behind it, and a head that it finds ends inside. -/
def HeadScanner.ReadsInside (scanner : HeadScanner) (buffer : Bytes) : Prop :=
  scanner.scanned - 3 ≤ buffer.length ∧
    ∀ length, headLength? (buffer.drop (scanner.scanned - 3)) = some length →
      scanner.scanned - 3 + length ≤ buffer.length

/-- The looks at a growing buffer, up to the first result: each with its scanner and the buffer that
it sees. -/
def HeadScanner.looks (scanner : HeadScanner) (buffer : Bytes) :
    List Bytes → List (HeadScanner × Bytes)
  | [] => []
  | piece :: later =>
    (scanner, buffer ++ piece) ::
      match scanner.scan (buffer ++ piece) with
      | .incomplete scanner => scanner.looks (buffer ++ piece) later
      | _ => []

theorem scanned_of_incomplete {scanner after : HeadScanner} {buffer : Bytes}
    (look : scanner.scan buffer = .incomplete after) : after.scanned = buffer.length := by
  unfold HeadScanner.scan at look
  dsimp only at look
  split at look
  · exact absurd look (HeadScan.ofHead_ne_incomplete _ _ _)
  · split at look
    · cases look
    · cases look
      rfl

theorem readsInside_of_mem_looks {scanner : HeadScanner} {buffer : Bytes} {pieces : List Bytes}
    (scanned : scanner.scanned ≤ buffer.length) {look : HeadScanner × Bytes}
    (member : look ∈ scanner.looks buffer pieces) : look.1.ReadsInside look.2 := by
  induction pieces generalizing scanner buffer with
  | nil => cases member
  | cons piece later ih =>
    rw [HeadScanner.looks, List.mem_cons] at member
    rcases member with rfl | member
    · have inside : scanner.scanned - 3 ≤ (buffer ++ piece).length := by
        rw [List.length_append]
        omega
      refine ⟨inside, fun length found => ?_⟩
      have bound := (bounds_of_headLength? found).2
      rw [List.length_drop] at bound
      dsimp only at bound ⊢
      omega
    · split at member
      · next after look =>
        exact ih (Nat.le_of_eq (scanned_of_incomplete look)) member
      · cases member

/-! ## All cuts -/

/-- However a byte string is cut into pieces that a scanner is shown one after the other: if its
head ends within the size that is allowed, nothing is found before the end of the head has arrived,
and then the head is read up to there, and what it leaves with the pieces that are left is all that
follows; if there is no empty line, nothing is found before there are too many bytes, and then the
scanner gives up. No look reads outside of the buffer. -/
theorem scanPieces_cuts (pieces : List Bytes) :
    (∀ length ≤ maxHead, EndsAt pieces.flatten length →
      (∀ early, early <+: pieces → early.flatten.length < length →
        HeadScanner.scanPieces {} [] early = (.incomplete ⟨early.flatten.length⟩, [])) ∧
      ∀ early piece later, pieces = early ++ piece :: later → early.flatten.length < length →
        length ≤ (early.flatten ++ piece).length →
        ∃ rest, rest ++ later.flatten = pieces.flatten.drop length ∧
          HeadScanner.scanPieces {} [] pieces =
            (.ofHead (pieces.flatten.take length) rest, later)) ∧
    (¬ emptyLine <:+: pieces.flatten →
      (∀ early, early <+: pieces → early.flatten.length ≤ maxHead →
        HeadScanner.scanPieces {} [] early = (.incomplete ⟨early.flatten.length⟩, [])) ∧
      ∀ early piece later, pieces = early ++ piece :: later → early.flatten.length ≤ maxHead →
        maxHead < (early.flatten ++ piece).length →
        HeadScanner.scanPieces {} [] pieces = (.tooLong, later)) ∧
    ∀ look ∈ HeadScanner.looks {} [] pieces, look.1.ReadsInside look.2 := by
  refine ⟨fun length small ends => ?_, fun noEnd => ?_,
    fun look member => readsInside_of_mem_looks (Nat.le_refl 0) member⟩
  · rw [← headLength?_eq_some_iff] at ends
    constructor
    · rintro early ⟨later, rfl⟩ before
      rw [List.flatten_append] at ends
      exact scanPieces_of_missing (headLength?_eq_none_of_lt ends before) (by omega)
    · rintro early piece later rfl before reaches
      refine ⟨_, ?_, scanPieces_of_reaching ends small before reaches⟩
      simp only [List.flatten_append, List.flatten_cons, ← List.append_assoc]
      rw [List.drop_append_of_le_length reaches]
  · rw [← headLength?_eq_none_iff] at noEnd
    constructor
    · rintro early ⟨later, rfl⟩ small
      rw [List.flatten_append] at noEnd
      exact scanPieces_of_missing (headLength?_eq_none_of_append noEnd) small
    · rintro early piece later rfl small large
      simp only [List.flatten_append, List.flatten_cons, ← List.append_assoc] at noEnd
      have here := headLength?_eq_none_of_append noEnd
      have look := scan_of_missing (headLength?_eq_none_of_append here) piece
      simp only [here, if_pos large] at look
      exact scanPieces_of_decisive (headLength?_eq_none_of_append here) small nofun look

theorem scanPieces_cuts_of_cut_empty_line :
    HeadScanner.scanPieces {} [] [[0x0D], [0x0A, 0x0D]] = (.incomplete ⟨3⟩, []) ∧
      ∃ rest, rest = [0x61] ∧
        HeadScanner.scanPieces {} [] [[0x0D], [0x0A, 0x0D], [0x0A, 0x61]] =
          (.ofHead emptyLine rest, []) := by
  have ends : EndsAt [[0x0D], [0x0A, 0x0D], [0x0A, 0x61]].flatten 4 :=
    headLength?_eq_some_iff.mp rfl
  obtain ⟨waits, finds⟩ :=
    (scanPieces_cuts [[0x0D], [0x0A, 0x0D], [0x0A, 0x61]]).1 4 (by decide) ends
  obtain ⟨rest, left, found⟩ :=
    finds [[0x0D], [0x0A, 0x0D]] [0x0A, 0x61] [] rfl (by decide) (by decide)
  rw [List.flatten_nil, List.append_nil] at left
  exact ⟨waits [[0x0D], [0x0A, 0x0D]] (List.prefix_append _ [_]) (by decide), rest, left, found⟩

end WebSocket.Http
