import Mathlib.Data.List.Infix
import WebSocket.Proofs.Http.Grammar
import WebSocket.Proofs.Http.HeadSearch

/-! # The lines of a message

What a receiver takes for the lines of a message: its bytes, cut at every end of a line. Whatever is
written with an end of a line behind it is read for itself (`linesOf_written`), as one line when it
holds no other end of a line (`linesOf_of_whole`), and no line that is read holds one
(`not_isInfix_of_mem_linesOf`). So a sequence of lines that was written is read as that sequence
exactly when none of them holds an end of a line (`linesOf_written_iff`), and then the empty line
behind them is the first one (`headLength?_written`).
-/

namespace WebSocket.Http

/-- The parts of bytes between the ends of lines. -/
def linesOf : Bytes → List Bytes
  | [] => [[]]
  | 0x0D :: 0x0A :: rest => [] :: linesOf rest
  | byte :: rest => (linesOf rest).modifyHead (byte :: ·)

variable {line rest : Bytes}

theorem linesOf_crlf (rest : Bytes) : linesOf (crlf ++ rest) = [] :: linesOf rest := by
  rw [crlf, List.cons_append, List.singleton_append, linesOf]

theorem linesOf_cons {byte : UInt8} (inside : ¬ crlf <+: byte :: rest) :
    linesOf (byte :: rest) = (linesOf rest).modifyHead (byte :: ·) := by
  rw [linesOf]
  rintro rest' rfl rfl
  exact inside ⟨rest', rfl⟩

/-- No end of a line begins in a line and reaches into the end of that line. -/
theorem not_isPrefix_of_line {byte : UInt8} (inside : ¬ crlf <+: byte :: line) (rest : Bytes) :
    ¬ crlf <+: byte :: (line ++ crlf ++ rest) := by
  intro starts
  cases line with
  | nil =>
    obtain ⟨-, second⟩ := List.cons_prefix_cons.mp starts
    have same := (List.cons_prefix_cons.mp second).1
    cases same
  | cons next line =>
    apply inside
    obtain ⟨rfl, second⟩ := List.cons_prefix_cons.mp starts
    obtain ⟨rfl, -⟩ := List.cons_prefix_cons.mp second
    exact ⟨line, rfl⟩

theorem not_isInfix_of_cons {byte : UInt8} (whole : ¬ crlf <:+: byte :: line) : ¬ crlf <:+: line :=
  fun inside => whole (inside.trans (List.suffix_cons byte line).isInfix)

/-- The first line is what the bytes begin with. -/
theorem exists_linesOf (bytes : Bytes) :
    ∃ first later, linesOf bytes = first :: later ∧ first <+: bytes := by
  fun_induction linesOf bytes with
  | case1 => exact ⟨[], [], rfl, List.nil_prefix⟩
  | case2 rest ih => exact ⟨[], linesOf rest, rfl, List.nil_prefix⟩
  | case3 byte rest other ih =>
    obtain ⟨first, later, lines, front⟩ := ih
    exact ⟨byte :: first, later, by rw [lines, List.modifyHead_cons],
      List.cons_prefix_cons.mpr ⟨rfl, front⟩⟩

/-- Bytes with an end of a line behind them are read apart from what follows. -/
theorem linesOf_append (front rest : Bytes) :
    linesOf (front ++ crlf ++ rest) = linesOf front ++ linesOf rest := by
  fun_induction linesOf front with
  | case1 => exact linesOf_crlf rest
  | case2 front ih =>
    rw [List.cons_append, List.cons_append, List.cons_append, List.cons_append, linesOf, ih]
    rfl
  | case3 byte front other ih =>
    have inside : ¬ crlf <+: byte :: front := by
      rintro ⟨rest', same⟩
      cases same
      exact other rest' rfl rfl
    obtain ⟨first, later, lines, -⟩ := exists_linesOf front
    rw [List.cons_append, List.cons_append, linesOf_cons (not_isPrefix_of_line inside rest), ih,
      lines, List.cons_append, List.modifyHead_cons, List.modifyHead_cons, List.cons_append]

/-- A line that holds no end of a line is read as one. -/
theorem linesOf_of_whole (whole : ¬ crlf <:+: line) : linesOf line = [line] := by
  induction line with
  | nil => rfl
  | cons byte line ih =>
    rw [linesOf_cons fun starts => whole starts.isInfix, ih (not_isInfix_of_cons whole),
      List.modifyHead_cons]

theorem flatMap_linesOf {lines : List Bytes} (whole : ∀ line ∈ lines, ¬ crlf <:+: line) :
    lines.flatMap linesOf = lines := by
  rw [List.flatMap_congr fun line member => linesOf_of_whole (whole line member),
    List.flatMap_singleton']

/-- No line that is read holds an end of a line. -/
theorem not_isInfix_of_mem_linesOf {bytes : Bytes} (member : line ∈ linesOf bytes) :
    ¬ crlf <:+: line := by
  fun_induction linesOf bytes generalizing line with
  | case1 =>
    rw [List.mem_singleton.mp member, List.infix_nil]
    exact List.cons_ne_nil _ _
  | case2 rest ih =>
    rcases List.mem_cons.mp member with rfl | later
    · rw [List.infix_nil]
      exact List.cons_ne_nil _ _
    · exact ih later
  | case3 byte rest other ih =>
    obtain ⟨first, later, lines, front⟩ := exists_linesOf rest
    rw [lines, List.modifyHead_cons] at member
    rw [lines] at ih
    rcases List.mem_cons.mp member with rfl | behind
    · intro inside
      rcases List.infix_cons_iff.mp inside with starts | deeper
      · -- The end of a line would have been found at this byte.
        obtain ⟨rfl, second⟩ := List.cons_prefix_cons.mp starts
        obtain ⟨rest', rfl⟩ := second.trans front
        exact other rest' rfl rfl
      · exact ih (List.mem_cons_self ..) deeper
    · exact ih (List.mem_cons_of_mem _ behind)

/-! ## Where no line ends -/

/-- An end of a line lies in one of two parts or across them. -/
theorem isInfix_append_iff {front back : Bytes} :
    crlf <:+: front ++ back ↔
      crlf <:+: front ∨ crlf <:+: back ∨ [0x0D] <:+ front ∧ [0x0A] <+: back := by
  rw [List.infix_append_iff_ne_nil]
  refine or_congr_right (or_congr_right ⟨?_, ?_⟩)
  · rintro ⟨first, second, someFirst, someSecond, whole, ends, begins⟩
    obtain ⟨byte, later, rfl⟩ := List.exists_cons_of_ne_nil someFirst
    obtain ⟨rfl, same⟩ := List.cons.inj whole
    cases later with
    | nil =>
      obtain rfl : second = [0x0A] := same.symm
      exact ⟨ends, begins⟩
    | cons next later =>
      have nothing := (List.append_eq_nil_iff.mp (List.cons.inj same).2.symm).2
      exact absurd nothing someSecond
  · rintro ⟨ends, begins⟩
    exact ⟨[0x0D], [0x0A], List.cons_ne_nil _ _, List.cons_ne_nil _ _, rfl, ends, begins⟩

namespace KeepsLine

variable {bytes : Bytes} (keeps : KeepsLine bytes)

include keeps

theorem not_isSuffix : ¬ [0x0D] <:+ bytes := fun ends => by
  cases keeps _ (ends.subset (List.mem_singleton_self _))

theorem not_isInfix : ¬ crlf <:+: bytes := fun inside => by
  cases keeps _ (inside.subset (List.mem_cons_self ..))

theorem isInfix_append_iff (back : Bytes) : crlf <:+: bytes ++ back ↔ crlf <:+: back := by
  simp [Http.isInfix_append_iff, keeps.not_isInfix, keeps.not_isSuffix]

/-- Bytes that keep a line apart. -/
theorem isInfix_between_iff (nonempty : bytes ≠ []) (front back : Bytes) :
    crlf <:+: front ++ bytes ++ back ↔ crlf <:+: front ∨ crlf <:+: back := by
  rw [List.append_assoc, Http.isInfix_append_iff, keeps.isInfix_append_iff]
  refine or_congr_right (or_iff_left ?_)
  rintro ⟨-, begins⟩
  obtain ⟨byte, rest, rfl⟩ := List.exists_cons_of_ne_nil nonempty
  obtain ⟨rfl, -⟩ := List.cons_prefix_cons.mp begins
  cases keeps _ (List.mem_cons_self ..)

end KeepsLine

/-! ## Lines that are written -/

/-- Lines with their ends, and an empty one behind them. -/
def written (lines : List Bytes) : Bytes :=
  lines.flatMap (· ++ crlf) ++ crlf

theorem written_cons (line : Bytes) (lines : List Bytes) :
    written (line :: lines) = line ++ crlf ++ written lines := by
  simp only [written, List.flatMap_cons, List.append_assoc]

/-- Whatever lines are written, each of them is read for itself. -/
theorem linesOf_written (lines : List Bytes) :
    linesOf (written lines) = lines.flatMap linesOf ++ [[], []] := by
  induction lines with
  | nil => rfl
  | cons line lines ih =>
    rw [written_cons, linesOf_append, ih, List.flatMap_cons, List.append_assoc]

/-- Lines that are written are read as they are exactly when none of them holds an end of a line. -/
theorem linesOf_written_iff (lines : List Bytes) :
    linesOf (written lines) = lines ++ [[], []] ↔ ∀ line ∈ lines, ¬ crlf <:+: line := by
  constructor
  · intro read line member
    have member : line ∈ linesOf (written lines) := by
      rw [read]
      exact List.mem_append_left _ member
    exact not_isInfix_of_mem_linesOf member
  · intro whole
    rw [linesOf_written, flatMap_linesOf whole]

/-- Where an empty line is found, a line ends. -/
theorem isPrefix_of_take {bytes : Bytes} (found : bytes.take 4 = emptyLine) : crlf <+: bytes := by
  have front : emptyLine <+: bytes := by
    rw [← found]
    exact List.take_prefix 4 bytes
  exact (List.prefix_append crlf crlf).trans front

/-- Behind a line, an empty line is found at once or further on. -/
theorem headLength?_append_crlf (whole : ¬ crlf <:+: line) (rest : Bytes) :
    headLength? (line ++ crlf ++ rest) =
      if crlf <+: rest then some (line.length + 4)
      else (headLength? rest).map (line.length + 2 + ·) := by
  induction line with
  | nil =>
    have second : ¬ (0x0A :: rest).take 4 = emptyLine := by
      intro found
      cases (List.cons.inj found).1
    have first : (0x0D :: 0x0A :: rest).take 4 = emptyLine ↔ crlf <+: rest := by
      change crlf ++ rest.take 2 = crlf ++ crlf ↔ _
      rw [List.append_cancel_left_eq, List.prefix_iff_eq_take]
      exact eq_comm
    rw [List.nil_append, crlf, List.cons_append, List.singleton_append, headLength?_cons,
      headLength?_cons, if_neg second, Option.map_map]
    by_cases starts : crlf <+: rest
    · rw [if_pos (first.mpr starts)]
      exact (if_pos starts).symm
    · rw [if_neg (mt first.mp starts)]
      refine Eq.trans ?_ (if_neg starts).symm
      congr 1
      funext length
      simp only [Function.comp_apply, List.length_nil]
      omega
  | cons byte line ih =>
    have inside : ¬ (byte :: (line ++ crlf ++ rest)).take 4 = emptyLine := fun found =>
      not_isPrefix_of_line (fun starts => whole starts.isInfix) rest (isPrefix_of_take found)
    rw [List.cons_append, List.cons_append, headLength?_cons, if_neg inside,
      ih (not_isInfix_of_cons whole), List.length_cons]
    split
    · rw [Option.map_some]
      congr 1
      omega
    · rw [Option.map_map]
      congr 1
      funext length
      simp only [Function.comp_apply]
      omega

/-- The empty line behind lines that hold something and no end of a line is the first one. -/
theorem headLength?_written {lines : List Bytes} (nonempty : lines ≠ [])
    (whole : ∀ line ∈ lines, line ≠ [] ∧ ¬ crlf <:+: line) :
    headLength? (written lines) = some (written lines).length := by
  induction lines with
  | nil => exact absurd rfl nonempty
  | cons line lines ih =>
    have others : ∀ other ∈ lines, other ≠ [] ∧ ¬ crlf <:+: other :=
      fun other member => whole other (List.mem_cons_of_mem _ member)
    rw [written_cons, headLength?_append_crlf (whole line (List.mem_cons_self ..)).2]
    cases lines with
    | nil =>
      rw [if_pos (show crlf <+: written [] from List.prefix_rfl)]
      simp [written, crlf]
    | cons next lines =>
      obtain ⟨filled, inside⟩ := others next (List.mem_cons_self ..)
      have goesOn : ¬ crlf <+: written (next :: lines) := by
        obtain ⟨byte, tail, rfl⟩ := List.exists_cons_of_ne_nil filled
        rw [written_cons]
        exact not_isPrefix_of_line (fun starts => inside starts.isInfix) _
      rw [if_neg goesOn, ih (List.cons_ne_nil _ _) others, Option.map_some]
      simp only [List.length_append, crlf, List.length_cons, List.length_nil]

end WebSocket.Http
