import Mathlib.Data.List.DropRight
import WebSocket.Text.Base64
import WebSocket.Text.Blank

/-! # Texts as bytes

The bytes of a text are those of its characters one after the other, and the text is read back from
them. Only ASCII characters leave ASCII bytes, each its own (`mem_utf8EncodeChar`), so what a text
holds of them can be told from its bytes and the other way round. Then what is known of the
characters of a text that was trimmed or split, or that Base64 made.
-/

namespace WebSocket

namespace Bytes

theorem ofString_append (front back : String) :
    ofString (front ++ back) = ofString front ++ ofString back := by
  simp [ofString, String.toByteArray_append]

/-- The bytes of a text are those of its characters. -/
theorem ofString_eq (text : String) :
    ofString text = text.toList.flatMap String.utf8EncodeChar := by
  rw [ofString, ← String.utf8Encode_toList, List.utf8Encode]
  simp

theorem toByteArray_ofString (text : String) : (ofString text).toByteArray = text.toByteArray :=
  ByteArray.ext (by simp [ofString])

/-- A text is read back from its bytes. -/
theorem text?_ofString (text : String) : text? (ofString text) = some text := by
  rw [text?, toByteArray_ofString, String.fromUTF8?]
  split
  · rfl
  · next invalid => exact absurd text.isValidUTF8 invalid

/-- Bytes that are read as a text are the bytes of that text. -/
theorem ofString_of_text? {bytes : Bytes} {text : String} (read : text? bytes = some text) :
    ofString text = bytes := by
  rw [text?, String.fromUTF8?] at read
  split at read
  · cases read
    simp [ofString, String.fromUTF8]
  · cases read

theorem ofString_of_ascii {text : String} (ascii : ∀ c ∈ text.toList, c.toNat < 128) :
    ofString text = text.toList.map fun c => .ofNat c.toNat := by
  rw [ofString_eq, List.map_eq_flatMap]
  refine List.flatMap_congr fun c member => ?_
  unfold String.utf8EncodeChar
  exact if_pos (Nat.le_of_lt_succ (ascii c member))

theorem ofString_eq_nil_iff {text : String} : ofString text = [] ↔ text = "" := by
  rw [ofString_eq, List.flatMap_eq_nil_iff]
  constructor
  · intro all
    rw [← String.toList_eq_nil_iff, List.eq_nil_iff_forall_not_mem]
    exact fun c member => String.utf8EncodeChar_ne_nil (all c member)
  · rintro rfl c member
    cases member

/-- An ASCII character is one byte, and any other character has no ASCII byte. -/
theorem mem_utf8EncodeChar {c : Char} {byte : UInt8} (member : byte ∈ String.utf8EncodeChar c) :
    c.toNat < 128 ∧ byte = .ofNat c.toNat ∨ 128 ≤ c.toNat ∧ 128 ≤ byte.toNat := by
  have high (value : Nat) {width base : Nat} (positive : 0 < width) (fits : width + base ≤ 256)
      (least : 128 ≤ base) : 128 ≤ (UInt8.ofNat (value % width + base)).toNat := by
    have := Nat.mod_lt value positive
    rw [UInt8.toNat_ofNat']
    omega
  unfold String.utf8EncodeChar at member
  change _ ∈ ite (c.toNat ≤ 0x7f) _ _ at member
  split at member
  · next ascii => exact .inl ⟨Nat.lt_succ_of_le ascii, List.mem_singleton.mp member⟩
  · next other =>
    refine .inr ⟨Nat.lt_of_not_le other, ?_⟩
    split at member
    · simp only [List.mem_cons, List.not_mem_nil, or_false] at member
      rcases member with rfl | rfl
      all_goals exact high _ (by decide) (by decide) (by decide)
    · split at member
      · simp only [List.mem_cons, List.not_mem_nil, or_false] at member
        rcases member with rfl | rfl | rfl
        all_goals exact high _ (by decide) (by decide) (by decide)
      · simp only [List.mem_cons, List.not_mem_nil, or_false] at member
        rcases member with rfl | rfl | rfl | rfl
        all_goals exact high _ (by decide) (by decide) (by decide)

/-- The byte of an ASCII character is left by no other character. -/
theorem ne_ofNat_of_ne {c ascii : Char} {byte : UInt8}
    (source : c.toNat < 128 ∧ byte = .ofNat c.toNat ∨ 128 ≤ c.toNat ∧ 128 ≤ byte.toNat)
    (small : ascii.toNat < 128) (other : c ≠ ascii) : byte ≠ .ofNat ascii.toNat := by
  rintro rfl
  refine other (Char.toNat_inj.mp ?_)
  rcases source with ⟨isAscii, same⟩ | ⟨-, high⟩
  · have values := congrArg UInt8.toNat same
    rw [UInt8.toNat_ofNat', UInt8.toNat_ofNat'] at values
    omega
  · rw [UInt8.toNat_ofNat'] at high
    omega

/-- A byte of a text comes from one of its characters. -/
theorem exists_of_mem_ofString {text : String} {byte : UInt8} (member : byte ∈ ofString text) :
    ∃ c ∈ text.toList,
      c.toNat < 128 ∧ byte = .ofNat c.toNat ∨ 128 ≤ c.toNat ∧ 128 ≤ byte.toNat := by
  rw [ofString_eq, List.mem_flatMap] at member
  obtain ⟨c, inText, inChar⟩ := member
  exact ⟨c, inText, mem_utf8EncodeChar inChar⟩

/-- Every character of a text leaves a byte. -/
theorem exists_mem_ofString {text : String} {c : Char} (member : c ∈ text.toList) :
    ∃ byte ∈ ofString text,
      c.toNat < 128 ∧ byte = .ofNat c.toNat ∨ 128 ≤ c.toNat ∧ 128 ≤ byte.toNat := by
  obtain ⟨byte, inChar⟩ := List.exists_mem_of_ne_nil _ (String.utf8EncodeChar_ne_nil (c := c))
  refine ⟨byte, ?_, mem_utf8EncodeChar inChar⟩
  rw [ofString_eq]
  exact List.mem_flatMap.mpr ⟨c, member, inChar⟩

end Bytes

namespace Text

/-! ## Trimmed texts -/

variable {chars : List Char}

theorem head?_trim (chars : List Char) : ∀ c ∈ (trim chars).head?, isBlank c = false := by
  intro c first
  obtain ⟨more, whole⟩ : trim chars <+: chars.dropWhile isBlank := List.rdropWhile_prefix isBlank _
  have stops := List.head?_dropWhile_not isBlank chars
  rwa [← whole, List.head?_append, first] at stops

theorem getLast?_trim (chars : List Char) : ∀ c ∈ (trim chars).getLast?, isBlank c = false := by
  intro c last
  obtain ⟨nonempty, rfl⟩ := List.mem_getLast?_eq_getLast last
  exact Bool.eq_false_iff.mpr
    (List.rdropWhile_last_not isBlank (chars.dropWhile isBlank) nonempty)

/-- A text is trimmed when it has no blank at either end. -/
theorem trim_eq_self (first : ∀ c ∈ chars.head?, isBlank c = false)
    (last : ∀ c ∈ chars.getLast?, isBlank c = false) : trim chars = chars := by
  have front : chars.dropWhile isBlank = chars := by
    cases chars with
    | nil => rfl
    | cons c rest => simp [first c rfl]
  have back : chars.rdropWhile isBlank = chars := by
    refine List.rdropWhile_eq_self_iff.mpr fun nonempty => ?_
    simp [last _ (List.getLast?_eq_getLast_of_ne_nil nonempty)]
  rw [trim, front]
  exact back

@[simp] theorem trim_trim (chars : List Char) : trim (trim chars) = trim chars :=
  trim_eq_self (head?_trim chars) (getLast?_trim chars)

theorem subset_trim (chars : List Char) : trim chars ⊆ chars := by
  intro c member
  have inside := (List.rdropWhile_prefix isBlank (chars.dropWhile isBlank)).subset member
  exact (List.dropWhile_sublist isBlank).subset inside

/-! ## Split texts -/

/-- A piece of a split text is a part of it without separators. -/
theorem mem_splitOn {α : Type} [BEq α] [LawfulBEq α] {separator : α} {all piece : List α}
    (member : piece ∈ all.splitOn separator) : separator ∉ piece ∧ piece ⊆ all := by
  induction all generalizing piece with
  | nil =>
    rw [List.splitOn_nil, List.mem_singleton] at member
    subst member
    exact ⟨List.not_mem_nil, List.nil_subset _⟩
  | cons first rest ih =>
    rw [List.splitOn_cons_eq_if_modifyHead] at member
    split at member
    · rcases List.mem_cons.mp member with rfl | later
      · exact ⟨List.not_mem_nil, List.nil_subset _⟩
      · exact ⟨(ih later).1, List.subset_cons_of_subset _ (ih later).2⟩
    · next other =>
      obtain ⟨head, later, pieces⟩ :=
        List.exists_cons_of_ne_nil (List.splitOn_ne_nil separator rest)
      rw [pieces] at ih member
      rw [List.modifyHead_cons] at member
      rcases List.mem_cons.mp member with rfl | later
      · obtain ⟨free, inside⟩ := ih (List.mem_cons_self ..)
        refine ⟨?_, List.cons_subset_cons _ inside⟩
        simp only [List.mem_cons, not_or]
        exact ⟨fun same => other (by simp [same]), free⟩
      · obtain ⟨free, inside⟩ := ih (List.mem_cons_of_mem _ later)
        exact ⟨free, List.subset_cons_of_subset _ inside⟩

/-! ## The characters of Base64 -/

namespace Base64

theorem mem_encodeChars {P : Char → Prop} (padding : P '=') (digits : ∀ value < 64, P (digit value))
    {bytes : Bytes} {c : Char} (member : c ∈ encodeChars bytes) : P c := by
  have single {value : Nat} (small : value < 64) : c = digit value → P c := by
    rintro rfl
    exact digits value small
  have pad : c = '=' → P c := by
    rintro rfl
    exact padding
  fun_induction encodeChars bytes with
  | case1 => cases member
  | case2 a bits =>
    have := a.toNat_lt
    simp only [List.mem_cons, List.not_mem_nil, or_false] at member
    rcases member with first | second | third | fourth
    · exact single (by omega) first
    · exact single (by omega) second
    · exact pad third
    · exact pad fourth
  | case3 a b bits =>
    have := a.toNat_lt
    have := b.toNat_lt
    simp only [List.mem_cons, List.not_mem_nil, or_false] at member
    rcases member with first | second | third | fourth
    · exact single (by omega) first
    · exact single (by omega) second
    · exact single (by omega) third
    · exact pad fourth
  | case4 a b c' rest bits ih =>
    have := a.toNat_lt
    have := b.toNat_lt
    have := c'.toNat_lt
    simp only [List.mem_cons] at member
    rcases member with first | second | third | fourth | later
    · exact single (by omega) first
    · exact single (by omega) second
    · exact single (by omega) third
    · exact single (by omega) fourth
    · exact ih later

end Base64

end Text

end WebSocket
