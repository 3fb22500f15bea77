import WebSocket.Http.Response

/-! # Heads as they are written

The grammar of a response head: a status line (`StatusLine`), header lines (`FieldLine`) and an
empty line. Each reader takes what was written and leaves what follows it, so that a whole head is
read as its status, its reason and its fields (`HeadText.parse_bytes`).
-/

namespace WebSocket.Http

/-! ## Parts of a line -/

/-- Bytes of which none can be a part of an end of a line. -/
def KeepsLine (bytes : Bytes) : Prop :=
  ∀ byte ∈ bytes, isLineEnd byte = false

instance : DecidablePred KeepsLine :=
  fun bytes => bytes.decidableBAll (isLineEnd · = false)

theorem keepsLine_append {front back : Bytes} :
    KeepsLine (front ++ back) ↔ KeepsLine front ∧ KeepsLine back :=
  List.forall_mem_append

/-- Bytes of a class without the two of an end of a line keep a line. -/
theorem keepsLine_of_class {inClass : UInt8 → Bool} (noReturn : inClass 0x0D = false)
    (noFeed : inClass 0x0A = false) {bytes : Bytes} (all : bytes.all inClass = true) :
    KeepsLine bytes := by
  intro byte member
  have holds := List.all_eq_true.mp all byte member
  rw [isLineEnd, Bool.or_eq_false_iff, decide_eq_false_iff_not, decide_eq_false_iff_not]
  constructor
  · rintro rfl
    rw [noReturn] at holds
    cases holds
  · rintro rfl
    rw [noFeed] at holds
    cases holds

theorem dropExpected?_append (expected rest : Bytes) :
    dropExpected? expected (expected ++ rest) = some rest := by
  induction expected with
  | nil => rw [List.nil_append, dropExpected?]
  | cons byte expected ih => rw [List.cons_append, dropExpected?, if_pos rfl, ih]

/-- Bytes of a class are taken up to the first one that is not of it. -/
theorem takeSome?_append {inClass : UInt8 → Bool} {taken rest : Bytes} (nonempty : taken ≠ [])
    (all : taken.all inClass = true)
    (stops : ∀ byte ∈ rest.head?, inClass byte = false) :
    takeSome? inClass (taken ++ rest) = some (taken, rest) := by
  have front : rest.takeWhile inClass = [] ∧ rest.dropWhile inClass = rest := by
    cases rest with
    | nil => exact ⟨rfl, rfl⟩
    | cons byte rest =>
      have other := stops byte rfl
      simp [other]
  have all := List.all_eq_true.mp all
  rw [takeSome?, List.takeWhile_append_of_pos all, List.dropWhile_append_of_pos all, front.1,
    front.2, List.append_nil, if_neg]
  simpa using nonempty

/-- A line loses the blanks at its beginning, and its end stays. -/
theorem takeLine_append {line : Bytes} (keeps : KeepsLine line) (rest : Bytes) :
    takeLine (line ++ crlf ++ rest) = (line.dropWhile isSpace, crlf ++ rest) := by
  have blanks : (line ++ crlf ++ rest).dropWhile isSpace =
      line.dropWhile isSpace ++ (crlf ++ rest) := by
    rw [List.append_assoc, List.dropWhile_append]
    split
    · next empty =>
      rw [List.isEmpty_iff] at empty
      rw [empty]
      rfl
    · rfl
  have inside : ∀ byte ∈ line.dropWhile isSpace, (!isLineEnd byte) = true := by
    intro byte member
    rw [keeps byte ((List.dropWhile_sublist _).subset member)]
    rfl
  unfold takeLine
  dsimp only
  rw [blanks, List.takeWhile_append_of_pos inside, List.dropWhile_append_of_pos inside]
  simp [crlf, isLineEnd]

theorem head?_append_of {P : UInt8 → Prop} {front : Bytes} (nonempty : front ≠ [])
    (all : ∀ byte ∈ front, P byte) (rest : Bytes) : ∀ byte ∈ (front ++ rest).head?, P byte := by
  intro byte first
  cases front with
  | nil => exact absurd rfl nonempty
  | cons head front =>
    cases first
    exact all _ (List.mem_cons_self ..)

/-! ## The status line -/

def isVersionByte (byte : UInt8) : Bool := isDigit byte || byte = 0x2E

theorem not_isVersionByte_of_isSpace {byte : UInt8} (space : isSpace byte = true) :
    isVersionByte byte = false := by
  simp only [isSpace, Bool.or_eq_true, decide_eq_true_eq] at space
  rcases space with rfl | rfl <;> rfl

theorem not_isSpace_of_isDigit {byte : UInt8} (digit : isDigit byte = true) :
    isSpace byte = false := by
  rw [← Bool.not_eq_true]
  intro space
  have other := not_isVersionByte_of_isSpace space
  rw [isVersionByte, digit] at other
  cases other

/-- A status line. -/
structure StatusLine where
  version : Bytes
  gap : Bytes
  digits : Bytes
  /-- All that follows the status. -/
  reason : Bytes
  version_nonempty : version ≠ []
  version_all : version.all isVersionByte = true
  gap_nonempty : gap ≠ []
  gap_all : gap.all isSpace = true
  digits_nonempty : digits ≠ []
  digits_all : digits.all isDigit = true
  status_small : decimal digits ≤ maxStatus
  reason_stops : ∀ byte ∈ reason.head?, isDigit byte = false
  reason_line : KeepsLine reason

namespace StatusLine

def bytes (line : StatusLine) : Bytes :=
  Bytes.ofString "HTTP/" ++ line.version ++ line.gap ++ line.digits ++ line.reason ++ crlf

theorem takeStatusLine?_bytes (line : StatusLine) (rest : Bytes) :
    takeStatusLine? (line.bytes ++ rest) =
      some (decimal line.digits, line.reason.dropWhile isSpace, rest) := by
  have gap : ∀ byte ∈ line.gap, isVersionByte byte = false := fun byte member =>
    not_isVersionByte_of_isSpace (List.all_eq_true.mp line.gap_all byte member)
  have digits : ∀ byte ∈ line.digits, isSpace byte = false := fun byte member =>
    not_isSpace_of_isDigit (List.all_eq_true.mp line.digits_all byte member)
  have afterVersion := takeSome?_append line.version_nonempty line.version_all
    (head?_append_of line.gap_nonempty gap (line.digits ++ line.reason ++ crlf ++ rest))
  have afterGap := takeSome?_append line.gap_nonempty line.gap_all
    (head?_append_of line.digits_nonempty digits (line.reason ++ crlf ++ rest))
  have stops : ∀ byte ∈ (line.reason ++ crlf ++ rest).head?, isDigit byte = false := by
    intro byte first
    cases reason : line.reason with
    | nil =>
      rw [reason] at first
      cases first
      rfl
    | cons head tail =>
      rw [reason] at first
      cases first
      exact line.reason_stops _ (by rw [reason]; rfl)
  have afterDigits := takeSome?_append line.digits_nonempty line.digits_all stops
  have afterReason := takeLine_append line.reason_line rest
  simp only [List.append_assoc] at afterVersion afterGap afterDigits afterReason
  change takeSome? (fun byte => isDigit byte || byte = 0x2E) _ = _ at afterVersion
  simp only [takeStatusLine?, bytes, List.append_assoc, dropExpected?_append, bind, Option.bind,
    pure, afterVersion, afterGap, afterDigits, if_neg (Nat.not_lt.mpr line.status_small),
    afterReason]

end StatusLine

/-! ## Header lines -/

/-- A header line. -/
structure FieldLine where
  name : Bytes
  /-- All that follows the colon. -/
  value : Bytes
  name_nonempty : name ≠ []
  name_token : name.all isTokenByte = true
  value_line : KeepsLine value

namespace FieldLine

def bytes (line : FieldLine) : Bytes :=
  line.name ++ [0x3A] ++ line.value ++ crlf

/-- What a header line is read as. -/
def field (line : FieldLine) : Bytes × Bytes :=
  (line.name, line.value.dropWhile isSpace)

theorem takeField?_bytes (line : FieldLine) (rest : Bytes) :
    takeField? (line.bytes ++ rest) = some (line.field, rest) := by
  have stops : ∀ byte ∈ ([0x3A] ++ (line.value ++ (crlf ++ rest))).head?,
      isTokenByte byte = false := by
    intro byte first
    cases first
    rfl
  have afterName := takeSome?_append line.name_nonempty line.name_token stops
  have afterValue := takeLine_append line.value_line rest
  simp only [List.append_assoc] at afterValue
  simp only [takeField?, bytes, List.append_assoc, bind, Option.bind, pure, afterName,
    dropExpected?_append, afterValue, field]

end FieldLine

theorem takeFields_of_none {bytes : Bytes} (noField : takeField? bytes = none) :
    takeFields bytes = ([], bytes) := by
  rw [takeFields]
  split
  · rfl
  · next read =>
    rw [noField] at read
    cases read

theorem takeFields_of_some {bytes rest : Bytes} {field : Bytes × Bytes}
    (found : takeField? bytes = some (field, rest)) :
    takeFields bytes = (field :: (takeFields rest).1, (takeFields rest).2) := by
  rw [takeFields]
  split
  · next read =>
    rw [found] at read
    cases read
  · next read =>
    rw [found] at read
    cases read
    rfl

/-- Header lines are read one after the other, up to what is none. -/
theorem takeFields_bytes (lines : List FieldLine) {rest : Bytes}
    (stops : takeField? rest = none) :
    takeFields (lines.flatMap FieldLine.bytes ++ rest) = (lines.map FieldLine.field, rest) := by
  induction lines with
  | nil => exact takeFields_of_none stops
  | cons line lines ih =>
    rw [List.flatMap_cons, List.append_assoc, takeFields_of_some (line.takeField?_bytes _), ih,
      List.map_cons]

/-! ## Heads -/

/-- A response head. -/
structure HeadText where
  status : StatusLine
  lines : List FieldLine

namespace HeadText

def bytes (text : HeadText) : Bytes :=
  text.status.bytes ++ text.lines.flatMap FieldLine.bytes ++ crlf

/-- What a head holds that was written, given its headers. -/
def headOf (text : HeadText) (headers : Headers) : ResponseHead where
  status := decimal text.status.digits
  reason := .ofList (Text.trimEnd (Text.Utf8.decode (text.status.reason.dropWhile isSpace)))
  headers := headers

/-- A head that was written is read, if its lines can be added to headers. -/
theorem parse_bytes (text : HeadText) :
    ResponseHead.parse text.bytes =
      ((text.lines.map FieldLine.field).foldlM Headers.addLine {}).map text.headOf := by
  have noField : takeField? crlf = none := rfl
  have fields := takeFields_bytes text.lines noField
  simp only [ResponseHead.parse, bytes, List.append_assoc, StatusLine.takeStatusLine?_bytes,
    fields, ne_eq, not_true_eq_false, if_false]
  rfl

end HeadText

end WebSocket.Http
