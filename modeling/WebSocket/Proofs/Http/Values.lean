import WebSocket.Proofs.Http.Grammar
import WebSocket.Proofs.Http.Merging
import WebSocket.Proofs.Text

/-! # Header values as text

A header value is read as text when all of it is visible, and then it is the bytes of that text
(`HeaderValue.text?_eq_some_iff`). A header line that was written with a visible and trimmed text is
read back as that text (`readField?_ofTexts`), and the values of a name are those of its lines
(`Headers.getAll_ofList`).
-/

namespace WebSocket.Http

/-! ## Visible texts -/

/-- The characters of a value that can be read as text. -/
def isVisible (c : Char) : Bool :=
  c.toNat = 9 || 0x20 ≤ c.toNat && c.toNat ≤ 0x7E

theorem isVisibleByte_iff {byte : UInt8} :
    isVisibleByte byte = true ↔ byte.toNat = 9 ∨ 0x20 ≤ byte.toNat ∧ byte.toNat ≤ 0x7E := by
  simp [isVisibleByte, ← UInt8.toNat_inj, UInt8.le_iff_toNat_le]

theorem isVisible_iff {c : Char} :
    isVisible c = true ↔ c.toNat = 9 ∨ 0x20 ≤ c.toNat ∧ c.toNat ≤ 0x7E := by
  simp [isVisible]

/-- Texts whose characters are all visible. -/
def Visible (text : String) : Prop :=
  ∀ c ∈ text.toList, isVisible c = true

instance : DecidablePred Visible :=
  fun text => text.toList.decidableBAll (isVisible · = true)

theorem all_isVisibleByte_iff {text : String} :
    (Bytes.ofString text).all isVisibleByte = true ↔ Visible text := by
  rw [List.all_eq_true]
  constructor
  · intro all c member
    obtain ⟨byte, inBytes, ⟨ascii, rfl⟩ | ⟨-, high⟩⟩ := Bytes.exists_mem_ofString member
    · have visible := isVisibleByte_iff.mp (all _ inBytes)
      rw [UInt8.toNat_ofNat'] at visible
      exact isVisible_iff.mpr (by omega)
    · have visible := isVisibleByte_iff.mp (all _ inBytes)
      omega
  · intro all byte member
    obtain ⟨c, inText, ⟨ascii, rfl⟩ | ⟨high, -⟩⟩ := Bytes.exists_of_mem_ofString member
    · have visible := isVisible_iff.mp (all _ inText)
      rw [isVisibleByte_iff, UInt8.toNat_ofNat']
      omega
    · have visible := isVisible_iff.mp (all _ inText)
      omega

namespace HeaderValue

variable {value : HeaderValue} {text : String}

/-- A value is read as a text when it is the bytes of that text and all of it is visible. -/
theorem text?_eq_some_iff :
    value.text? = some text ↔ value.bytes = Bytes.ofString text ∧ Visible text := by
  rw [text?, Option.ite_none_right_eq_some]
  constructor
  · rintro ⟨visible, read⟩
    have same := Bytes.ofString_of_text? read
    rw [← same] at visible ⊢
    exact ⟨rfl, all_isVisibleByte_iff.mp visible⟩
  · rintro ⟨same, visible⟩
    rw [same]
    exact ⟨all_isVisibleByte_iff.mpr visible, Bytes.text?_ofString text⟩

end HeaderValue

theorem visible_intercalate {texts : List String} (visible : ∀ text ∈ texts, Visible text) :
    Visible (String.intercalate ", " texts) := by
  induction texts with
  | nil => decide
  | cons text others ih =>
    obtain ⟨first, others'⟩ := List.forall_mem_cons.mp visible
    cases others with
    | nil => simpa using first
    | cons next others =>
      have comma : Visible ", " := by decide
      intro c member
      rw [String.intercalate_cons_cons, String.toList_append, String.toList_append,
        List.mem_append, List.mem_append] at member
      rcases member with (inText | inComma) | later
      · exact first c inText
      · exact comma c inComma
      · exact ih others' c later

namespace Headers

variable {headers : Headers} {name : HeaderName}

/-- What is read of the values of a name is visible. -/
theorem visible_of_joined? {text : String} (read : headers.joined? name = some text) :
    Visible text := by
  unfold joined? at read
  split at read
  · cases read
  · cases read
    refine visible_intercalate fun text member => ?_
    obtain ⟨value, -, spelled⟩ := List.mem_filterMap.mp member
    exact (HeaderValue.text?_eq_some_iff.mp spelled).2

/-- The one value of a name is read as its text. -/
theorem joined?_of_single {text : String} {value : HeaderValue}
    (single : headers.getAll name = [value]) (read : value.text? = some text) :
    headers.joined? name = some text := by
  simp [joined?, single, read]

theorem joinedByText?_of_single {spelled text : String} {value : HeaderValue}
    (named : HeaderName.ofBytes? (Bytes.ofString spelled) = some name)
    (single : headers.getAll name = [value]) (read : value.text? = some text) :
    headers.joinedByText? spelled = some text := by
  rw [joinedByText?, named, Option.bind_some, joined?_of_single single read]

/-- The values of a name are those of its lines. -/
theorem getAll_ofList (fields : List (HeaderName × HeaderValue)) (name : HeaderName) :
    (ofList fields).getAll name =
      fields.filterMap fun (held, value) => if name = held then some value else none :=
  getAll_appendAll {} fields name

end Headers

/-! ## Lines that are read back -/

theorem dropWhile_of_head? {α : Type} {p : α → Bool} {items : List α}
    (stops : ∀ item ∈ items.head?, p item = false) : items.dropWhile p = items := by
  cases items with
  | nil => rfl
  | cons item items => simp [stops item rfl]

theorem ofString_of_visible {text : String} (visible : Visible text) :
    Bytes.ofString text = text.toList.map fun c => .ofNat c.toNat := by
  refine Bytes.ofString_of_ascii fun c member => ?_
  have := isVisible_iff.mp (visible c member)
  omega

/-- A character that is no blank is none as a byte. -/
theorem not_isSpace_of_not_isBlank {c : Char} (ascii : c.toNat < 128)
    (solid : Text.isBlank c = false) :
    (isSpace (.ofNat c.toNat) || decide (UInt8.ofNat c.toNat = 0x0C)) = false := by
  rw [← Bool.not_eq_true]
  intro space
  have value : (UInt8.ofNat c.toNat).toNat = c.toNat := by
    rw [UInt8.toNat_ofNat']
    omega
  simp only [isSpace, Bool.or_eq_true, decide_eq_true_eq] at space
  have blank : Text.isBlank c = true := by
    rcases space with (same | same) | same
    all_goals
      rw [same] at value
      rw [Text.isBlank, ← value]
      rfl
  rw [blank] at solid
  cases solid

theorem isValueByte_of_isVisibleByte {byte : UInt8} (visible : isVisibleByte byte = true) :
    isValueByte byte = true := by
  have small := isVisibleByte_iff.mp visible
  have large : byte.toNat = 9 ∨ 0x20 ≤ byte.toNat ∧ ¬ byte.toNat = 0x7F := by omega
  simpa [isValueByte, ← UInt8.toNat_inj, UInt8.le_iff_toNat_le] using large

/-- The value that a visible text is. -/
def HeaderValue.ofText (text : String) (visible : Visible text) : HeaderValue where
  bytes := Bytes.ofString text
  isLine := by
    have all := List.all_eq_true.mp (all_isVisibleByte_iff.mpr visible)
    exact List.all_eq_true.mpr fun byte member => isValueByte_of_isVisibleByte (all byte member)

variable {name text : String}

theorem HeaderValue.text?_ofText (visible : Visible text) :
    (ofText text visible).text? = some text :=
  text?_eq_some_iff.mpr ⟨rfl, visible⟩

/-- The header line of a name and a visible text. -/
def FieldLine.ofTexts (name text : String) (named : Bytes.ofString name ≠ [])
    (token : (Bytes.ofString name).all isTokenByte = true) (visible : Visible text) :
    FieldLine where
  name := Bytes.ofString name
  value := 0x20 :: Bytes.ofString text
  name_nonempty := named
  name_token := token
  value_line :=
    List.forall_mem_cons.mpr
      ⟨rfl, keepsLine_of_class rfl rfl (all_isVisibleByte_iff.mpr visible)⟩

/-- A value without blanks at its end loses nothing. -/
theorem trimValue_eq_self {value : Bytes}
    (ends : ∀ byte ∈ value.getLast?, (isSpace byte || decide (byte = 0x0C)) = false) :
    trimValue value = value := by
  rw [trimValue, dropWhile_of_head?, List.reverse_reverse]
  intro byte last
  rw [List.head?_reverse] at last
  exact ends byte last

/-- A trimmed text has no blanks for the reader to take. -/
theorem trimValue_ofString (visible : Visible text)
    (trimmed : Text.trim text.toList = text.toList) :
    (Bytes.ofString text).dropWhile isSpace = Bytes.ofString text ∧
      trimValue (Bytes.ofString text) = Bytes.ofString text := by
  have solid {c : Char} (member : c ∈ text.toList) (solid : Text.isBlank c = false) :
      (isSpace (.ofNat c.toNat) || decide (UInt8.ofNat c.toNat = 0x0C)) = false := by
    have := isVisible_iff.mp (visible c member)
    exact not_isSpace_of_not_isBlank (by omega) solid
  have first := Text.head?_trim text.toList
  have last := Text.getLast?_trim text.toList
  rw [trimmed] at first last
  rw [ofString_of_visible visible]
  constructor
  · refine dropWhile_of_head? fun byte begins => ?_
    rw [List.head?_map, Option.mem_def, Option.map_eq_some_iff] at begins
    obtain ⟨c, begins, rfl⟩ := begins
    exact (Bool.or_eq_false_iff.mp (solid (List.mem_of_mem_head? begins) (first c begins))).1
  · refine trimValue_eq_self fun byte ends => ?_
    rw [List.getLast?_map, Option.mem_def, Option.map_eq_some_iff] at ends
    obtain ⟨c, ends, rfl⟩ := ends
    exact solid (List.mem_of_getLast? ends) (last c ends)

/-- A line that was written with a visible and trimmed text is read as that text. -/
theorem readField?_ofTexts {held : HeaderName}
    (spelled : HeaderName.ofBytes? (Bytes.ofString name) = some held)
    {named : Bytes.ofString name ≠ []}
    {token : (Bytes.ofString name).all isTokenByte = true} (visible : Visible text)
    (trimmed : Text.trim text.toList = text.toList) :
    readField? (FieldLine.ofTexts name text named token visible).field =
      some (held, .ofText text visible) := by
  obtain ⟨front, back⟩ := trimValue_ofString visible trimmed
  have value : HeaderValue.ofBytes? (Bytes.ofString text) = some (.ofText text visible) :=
    dif_pos (HeaderValue.ofText text visible).isLine
  have field : (FieldLine.ofTexts name text named token visible).field =
      (Bytes.ofString name, Bytes.ofString text) := by
    change (_, (0x20 :: Bytes.ofString text).dropWhile isSpace) = _
    rw [List.dropWhile_cons_of_pos rfl, front]
    rfl
  rw [field, readField?]
  simp only [back, value, spelled]
  rfl

end WebSocket.Http
