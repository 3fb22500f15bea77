import Mathlib.Data.List.Dedup
import Mathlib.Data.List.Perm.Subperm
import WebSocket.Proofs.Http.Values

/-! # Heads as they are read

Whatever a reader of a head takes follows the grammar: nothing else is read as a status line
(`takeStatusLine?_sound`), as header lines (`takeFields_sound`) or as a head (`parse_sound`). So
bytes are read exactly when they are a head whose names and values can be held and whose lines all
find room (`exists_parse_iff`), the program stops at a field that finds none (`parse_overflow_iff`),
and what is read shows the status, the reason and all values of its lines
(`HeadText.shows_of_parse`).
-/

namespace WebSocket.Http

/-! ## Parts of a line -/

variable {bytes rest : Bytes}

theorem dropExpected?_sound {expected : Bytes} (read : dropExpected? expected bytes = some rest) :
    bytes = expected ++ rest := by
  induction expected generalizing bytes with
  | nil => exact Option.some.inj read
  | cons first expected ih =>
    cases bytes with
    | nil => cases read
    | cons byte bytes =>
      rw [dropExpected?, Option.ite_none_right_eq_some] at read
      obtain ⟨rfl, read⟩ := read
      rw [ih read, List.cons_append]

theorem not_of_head?_dropWhile {inClass : UInt8 → Bool} {byte : UInt8}
    (first : byte ∈ (bytes.dropWhile inClass).head?) : inClass byte = false := by
  have stops := List.head?_dropWhile_not inClass bytes
  rwa [first] at stops

/-- What is taken of a class is not empty, is of the class, and what follows it is not. -/
theorem takeSome?_sound {inClass : UInt8 → Bool} {taken : Bytes}
    (read : takeSome? inClass bytes = some (taken, rest)) :
    bytes = taken ++ rest ∧ taken ≠ [] ∧ taken.all inClass = true ∧
      ∀ byte ∈ rest.head?, inClass byte = false := by
  rw [takeSome?, Option.ite_none_left_eq_some] at read
  obtain ⟨nonempty, read⟩ := read
  cases read
  refine ⟨List.takeWhile_append_dropWhile.symm, fun empty => ?_, List.all_takeWhile,
    fun byte => not_of_head?_dropWhile⟩
  exact nonempty (List.isEmpty_iff.mpr empty)

/-- A line that has an end was written with that end, and with blanks before what is read of it. -/
theorem takeLine_sound {line : Bytes} (read : takeLine bytes = (line, crlf ++ rest)) :
    ∃ written, bytes = written ++ crlf ++ rest ∧ KeepsLine written ∧
      line = written.dropWhile isSpace := by
  -- What was written is what is read and the blanks before it, which end no line either.
  obtain ⟨rfl, back⟩ := Prod.mk.inj read
  have blanks : KeepsLine (bytes.takeWhile isSpace) :=
    keepsLine_of_class rfl rfl List.all_takeWhile
  have keeps : KeepsLine ((bytes.dropWhile isSpace).takeWhile (!isLineEnd ·)) :=
    fun byte member => (Bool.not_eq_true' _).mp (List.all_eq_true.mp List.all_takeWhile byte member)
  refine ⟨bytes.takeWhile isSpace ++ (bytes.dropWhile isSpace).takeWhile (!isLineEnd ·), ?_,
    keepsLine_append.mpr ⟨blanks, keeps⟩, ?_⟩
  · rw [List.append_assoc, ← back, List.append_assoc, List.takeWhile_append_dropWhile,
      List.takeWhile_append_dropWhile]
  · rw [List.dropWhile_append_of_pos fun byte => List.all_eq_true.mp List.all_takeWhile byte]
    refine (dropWhile_of_head? fun byte first => ?_).symm
    rw [List.head?_takeWhile, Option.mem_def, Option.filter_eq_some_iff] at first
    exact not_of_head?_dropWhile first.1

/-! ## Lines -/

theorem takeStatusLine?_sound {status : Nat} {reason : Bytes}
    (read : takeStatusLine? bytes = some (status, reason, rest)) :
    ∃ line : StatusLine, bytes = line.bytes ++ rest ∧ status = decimal line.digits ∧
      reason = line.reason.dropWhile isSpace := by
  simp only [takeStatusLine?, bind, pure, Option.bind_eq_some_iff, Prod.exists] at read
  obtain ⟨afterName, name, version, afterVersion, versioned, gap, afterGap, gapped, digits,
    afterDigits, spelled, read⟩ := read
  split at read
  · cases read
  next small =>
  obtain ⟨afterReason, ended, read⟩ := Option.bind_eq_some_iff.mp read
  cases read
  obtain rfl := dropExpected?_sound name
  obtain ⟨rfl, versionNonempty, versionAll, -⟩ := takeSome?_sound versioned
  obtain ⟨rfl, gapNonempty, gapAll, -⟩ := takeSome?_sound gapped
  obtain ⟨rfl, digitsNonempty, digitsAll, stops⟩ := takeSome?_sound spelled
  have line : takeLine afterDigits = ((takeLine afterDigits).1, crlf ++ rest) :=
    Prod.ext rfl (dropExpected?_sound ended)
  obtain ⟨reason, rfl, keeps, same⟩ := takeLine_sound line
  have reasonStops : ∀ byte ∈ reason.head?, isDigit byte = false := by
    intro byte first
    refine stops byte ?_
    rw [List.append_assoc, List.head?_append, first]
    rfl
  refine ⟨⟨version, gap, digits, reason, versionNonempty, versionAll, gapNonempty, gapAll,
    digitsNonempty, digitsAll, Nat.le_of_not_lt small, reasonStops, keeps⟩, ?_, rfl, same⟩
  simp only [StatusLine.bytes, List.append_assoc]

theorem takeField?_sound {field : Bytes × Bytes} (read : takeField? bytes = some (field, rest)) :
    ∃ line : FieldLine, bytes = line.bytes ++ rest ∧ field = line.field := by
  simp only [takeField?, bind, pure, Option.bind_eq_some_iff, Option.some.injEq, Prod.mk.injEq,
    Prod.exists] at read
  obtain ⟨name, afterName, named, afterColon, colon, afterValue, ended, rfl, rfl⟩ := read
  obtain ⟨rfl, nonempty, token, -⟩ := takeSome?_sound named
  obtain rfl := dropExpected?_sound colon
  have line : takeLine afterColon = ((takeLine afterColon).1, crlf ++ afterValue) :=
    Prod.ext rfl (dropExpected?_sound ended)
  obtain ⟨value, rfl, keeps, same⟩ := takeLine_sound line
  refine ⟨⟨name, value, nonempty, token, keeps⟩, ?_, ?_⟩
  · simp only [FieldLine.bytes, List.append_assoc]
  · rw [same]
    rfl

/-- Header lines are taken from the front, whatever they leave. -/
theorem takeFields_sound (bytes : Bytes) :
    ∃ lines : List FieldLine, bytes = lines.flatMap FieldLine.bytes ++ (takeFields bytes).2 ∧
      (takeFields bytes).1 = lines.map FieldLine.field := by
  fun_induction takeFields bytes with
  | case1 bytes noField => exact ⟨[], rfl, rfl⟩
  | case2 bytes field rest found less fields left later ih =>
    obtain ⟨line, rfl, rfl⟩ := takeField?_sound found
    rw [later] at ih
    obtain ⟨lines, whole, names⟩ := ih
    dsimp only at whole names
    refine ⟨line :: lines, ?_, ?_⟩
    · rw [List.flatMap_cons, List.append_assoc, ← whole]
    · rw [names, List.map_cons]

/-- All but heads is malformed. -/
theorem parse_sound (read : ResponseHead.parse bytes ≠ .error .malformed) :
    ∃ text : HeadText, text.bytes = bytes := by
  rw [ResponseHead.parse] at read
  split at read
  · exact absurd rfl read
  next status reason afterStatus found =>
  dsimp only at read
  split at read
  · exact absurd rfl read
  next ended =>
  obtain ⟨line, rfl, -, -⟩ := takeStatusLine?_sound found
  obtain ⟨lines, whole, -⟩ := takeFields_sound afterStatus
  refine ⟨⟨line, lines⟩, ?_⟩
  rw [HeadText.bytes, List.append_assoc, whole, not_not.mp ended]

/-! ## Names and values that can be held -/

theorem all_isTokenByte_map_lowerByte {name : Bytes} (token : name.all isTokenByte = true) :
    (name.map lowerByte).all isTokenByte = true := by
  rw [List.all_map, List.all_eq_true]
  exact fun byte member => isTokenByte_lowerByte (List.all_eq_true.mp token byte member)

theorem HeaderName.ofBytes?_eq_some_iff {spelled : Bytes} {name : HeaderName}
    (nonempty : spelled ≠ []) (token : spelled.all isTokenByte = true) :
    HeaderName.ofBytes? spelled = some name ↔
      spelled.length ≤ maxNameLength ∧ name.bytes = spelled.map lowerByte := by
  have notEmpty : spelled.isEmpty = false := Bool.eq_false_iff.mpr (mt List.isEmpty_iff.mp nonempty)
  simp only [ofBytes?, dif_pos token, notEmpty, Bool.false_or, decide_eq_true_eq,
    Option.ite_none_left_eq_some, Nat.not_lt, Option.some.injEq]
  refine and_congr_right fun short => ⟨?_, fun same => ?_⟩
  · rintro rfl
    rfl
  · cases name
    subst same
    rfl

theorem HeaderValue.ofBytes?_eq_some_iff {value : HeaderValue} :
    HeaderValue.ofBytes? bytes = some value ↔ value.bytes = bytes := by
  constructor
  · intro read
    obtain ⟨line, read⟩ := Option.dite_none_right_eq_some.mp read
    cases read
    rfl
  · rintro rfl
    exact dif_pos value.isLine

namespace FieldLine

/-- The value of a header line without the blanks around it. -/
def trimmed (line : FieldLine) : Bytes :=
  trimValue (line.value.dropWhile isSpace)

/-- Whether the value of a header line has only the bytes that a value may have. -/
def HasValue (line : FieldLine) : Prop :=
  line.trimmed.all isValueByte = true

/-- Whether a header line is a field. -/
def IsField (line : FieldLine) : Prop :=
  line.name.length ≤ maxNameLength ∧ line.HasValue

/-- What a header line is held as: its name in small letters, and its value without the blanks
around it. -/
def HeldAs (line : FieldLine) (field : HeaderName × HeaderValue) : Prop :=
  field.1.bytes = line.name.map lowerByte ∧ field.2.bytes = line.trimmed

variable {line : FieldLine} {field : HeaderName × HeaderValue}

theorem readField?_eq_some_iff :
    readField? line.field = some field ↔
      line.name.length ≤ maxNameLength ∧ line.HeldAs field := by
  simp only [readField?, bind, pure, Option.bind_eq_some_iff, Option.some.injEq]
  constructor
  · rintro ⟨name, named, value, valued, rfl⟩
    obtain ⟨short, spelled⟩ :=
      (HeaderName.ofBytes?_eq_some_iff line.name_nonempty line.name_token).mp named
    exact ⟨short, spelled, HeaderValue.ofBytes?_eq_some_iff.mp valued⟩
  · rintro ⟨short, spelled, valued⟩
    exact ⟨field.1, (HeaderName.ofBytes?_eq_some_iff line.name_nonempty line.name_token).mpr
      ⟨short, spelled⟩, field.2, HeaderValue.ofBytes?_eq_some_iff.mpr valued, rfl⟩

theorem isSome_readField?_iff : (readField? line.field).isSome ↔ line.IsField := by
  rw [Option.isSome_iff_exists]
  constructor
  · rintro ⟨field, read⟩
    obtain ⟨short, -, valued⟩ := readField?_eq_some_iff.mp read
    refine ⟨short, ?_⟩
    rw [HasValue, ← valued]
    exact field.2.isLine
  · rintro ⟨short, valued⟩
    exact ⟨(⟨_, all_isTokenByte_map_lowerByte line.name_token⟩, ⟨_, valued⟩),
      readField?_eq_some_iff.mpr ⟨short, rfl, rfl⟩⟩

end FieldLine

/-! ## Lines that find room -/

section

variable {lines : List FieldLine} {line : FieldLine} {fields : List (HeaderName × HeaderValue)}

/-- Lines are read when each of them is a field. -/
theorem isSome_mapM_readField?_iff :
    ((lines.map FieldLine.field).mapM readField?).isSome ↔ ∀ line ∈ lines, line.IsField := by
  induction lines with
  | nil => exact ⟨fun _ => nofun, fun _ => rfl⟩
  | cons line lines ih =>
    rw [List.forall_mem_cons, ← ih, ← FieldLine.isSome_readField?_iff, List.map_cons,
      List.mapM_cons]
    cases readField? line.field <;> cases (lines.map FieldLine.field).mapM readField? <;> simp

/-- The fields that are read are those of the lines, one after the other. -/
theorem heldAs_of_mapM_readField?
    (read : (lines.map FieldLine.field).mapM readField? = some fields) :
    List.Forall₂ FieldLine.HeldAs lines fields := by
  induction lines generalizing fields with
  | nil =>
    cases read
    exact .nil
  | cons line lines ih =>
    simp only [List.map_cons, List.mapM_cons, bind, pure, Option.bind_eq_some_iff,
      Option.some.injEq] at read
    obtain ⟨field, first, later, others, rfl⟩ := read
    exact .cons (FieldLine.readField?_eq_some_iff.mp first).2 (ih others)

theorem HeaderName.eq_iff {name other : HeaderName} : name = other ↔ other.bytes = name.bytes := by
  cases name
  cases other
  rw [HeaderName.mk.injEq]
  exact eq_comm

/-- How many names lines have, in whatever mixture of capitals and small letters. -/
def nameCount (lines : List FieldLine) : Nat :=
  (lines.map fun line => line.name.map lowerByte).dedup.length

/-- Whether each line finds room for a field: the lines before it have fewer names than headers can
hold. -/
def HaveRoom (lines : List FieldLine) : Prop :=
  nameCount lines.dropLast < Headers.capacity

theorem nameCount_le_of_sublist {some : List FieldLine} (within : some.Sublist lines) :
    nameCount some ≤ nameCount lines := by
  refine (List.subperm_of_subset (List.nodup_dedup _) fun name member => ?_).length_le
  rw [List.mem_dedup] at member ⊢
  exact (within.map _).subset member

theorem nameCount_le_length (lines : List FieldLine) : nameCount lines ≤ lines.length :=
  (List.dedup_sublist _).length_le.trans_eq (List.length_map _)

theorem haveRoom_of_length_le (short : lines.length ≤ Headers.capacity) : HaveRoom lines := by
  have names := nameCount_le_length lines.dropLast
  rw [List.length_dropLast] at names
  have some : 0 < Headers.capacity := by decide
  unfold HaveRoom
  omega

/-- Headers have as many names as the lines that they hold. -/
theorem length_groups_of_heldAs (held : List.Forall₂ FieldLine.HeldAs lines fields) :
    (Headers.ofList fields).groups.length = nameCount lines := by
  have spelled : (fields.map Prod.fst).map HeaderName.bytes =
      lines.map fun line => line.name.map lowerByte := by
    induction held with
    | nil => rfl
    | cons first _ ih => rw [List.map_cons, List.map_cons, List.map_cons, ih, first.1]
  have injective : Function.Injective HeaderName.bytes := fun name other same =>
    HeaderName.eq_iff.mpr same.symm
  have nodup : (Headers.ofList fields).names.Nodup := (Headers.ofList fields).nodup
  have names : (Headers.ofList fields).names.Perm (fields.map Prod.fst).dedup := by
    rw [List.perm_ext_iff_of_nodup nodup (List.nodup_dedup _)]
    intro name
    rw [List.mem_dedup]
    exact Headers.mem_names_ofList_iff
  rw [nameCount, ← spelled, List.dedup_map_of_injective injective, List.length_map,
    ← names.length_eq, Headers.names, List.length_map]

/-- A line is added that is a field and finds room. -/
theorem Headers.addLine_eq_ok_iff {headers after : Headers} :
    headers.addLine line.field = .ok after ↔
      headers.groups.length < capacity ∧ ∃ field, readField? line.field = some field ∧
        headers.append field.1 field.2 = after := by
  unfold addLine isFull
  cases readField? line.field with
  | none => simp
  | some field =>
    by_cases full : capacity ≤ headers.groups.length
    · simp [full, Nat.not_lt.mpr full]
    · simp [full, Nat.lt_of_not_le full]

theorem Headers.addLine_eq_overflow_iff {headers : Headers} :
    headers.addLine line.field = .error .overflow ↔
      capacity ≤ headers.groups.length ∧ line.IsField := by
  rw [← FieldLine.isSome_readField?_iff]
  unfold addLine isFull
  cases readField? line.field with
  | none => simp
  | some field => by_cases full : capacity ≤ headers.groups.length <;> simp [full]

theorem Headers.addLine_eq_malformed_iff {headers : Headers} :
    headers.addLine line.field = .error .malformed ↔ ¬ line.IsField := by
  rw [← FieldLine.isSome_readField?_iff]
  unfold addLine
  cases readField? line.field with
  | none => simp
  | some field => cases headers.isFull <;> simp

theorem foldlM_addLine_concat {headers : Headers} :
    ((lines ++ [line]).map FieldLine.field).foldlM Headers.addLine headers =
      ((lines.map FieldLine.field).foldlM Headers.addLine headers).bind
        (Headers.addLine · line.field) := by
  rw [List.map_append, List.foldlM_append]
  refine congrArg _ (funext fun headers => ?_)
  simp

theorem mapM_readField?_concat_eq_some_iff :
    ((lines ++ [line]).map FieldLine.field).mapM readField? = some fields ↔
      ∃ early last, (lines.map FieldLine.field).mapM readField? = some early ∧
        readField? line.field = some last ∧ early ++ [last] = fields := by
  simp [List.mapM_append, Option.bind_eq_some_iff]

/-- Lines are added to headers exactly when each of them is a field and finds room. Then the headers
are those of their fields. -/
theorem foldlM_addLine_eq_ok_iff {headers : Headers} :
    (lines.map FieldLine.field).foldlM Headers.addLine {} = .ok headers ↔
      HaveRoom lines ∧ ∃ fields, (lines.map FieldLine.field).mapM readField? = some fields ∧
        .ofList fields = headers := by
  -- From the end, because the room that a line finds depends on the lines before it.
  induction lines using List.reverseRecOn generalizing headers with
  | nil =>
    have room : HaveRoom [] := by
      unfold HaveRoom
      decide
    simp [room, Headers.ofList, pure, Except.pure]
  | append_singleton lines line ih =>
    have added : HaveRoom (lines ++ [line]) ↔ nameCount lines < Headers.capacity := by
      rw [HaveRoom, List.dropLast_concat]
    rw [foldlM_addLine_concat, added]
    simp only [mapM_readField?_concat_eq_some_iff]
    constructor
    · intro read
      cases early : (lines.map FieldLine.field).foldlM Headers.addLine {} with
      | error fault =>
        rw [early] at read
        cases read
      | ok before =>
        rw [early] at read
        obtain ⟨-, fields, held, rfl⟩ := ih.mp early
        obtain ⟨notFull, field, last, rfl⟩ := Headers.addLine_eq_ok_iff.mp read
        rw [length_groups_of_heldAs (heldAs_of_mapM_readField? held)] at notFull
        exact ⟨notFull, _, ⟨fields, field, held, last, rfl⟩, Headers.ofList_concat fields field⟩
    · rintro ⟨room, _, ⟨fields, field, held, last, rfl⟩, rfl⟩
      have earlyRoom : HaveRoom lines :=
        (nameCount_le_of_sublist (List.dropLast_sublist _)).trans_lt room
      rw [← length_groups_of_heldAs (heldAs_of_mapM_readField? held)] at room
      rw [ih.mpr ⟨earlyRoom, fields, held, rfl⟩, Headers.ofList_concat]
      exact Headers.addLine_eq_ok_iff.mpr ⟨room, field, last, rfl⟩

/-- Lines are malformed only when one of them is no field. -/
theorem exists_not_isField_of_foldlM {headers : Headers}
    (malformed : (lines.map FieldLine.field).foldlM Headers.addLine headers =
      .error .malformed) : ∃ line ∈ lines, ¬ line.IsField := by
  induction lines generalizing headers with
  | nil => cases malformed
  | cons line lines ih =>
    rw [List.map_cons, List.foldlM_cons] at malformed
    cases added : headers.addLine line.field with
    | error fault =>
      rw [added] at malformed
      cases malformed
      exact ⟨line, List.mem_cons_self .., Headers.addLine_eq_malformed_iff.mp added⟩
    | ok after =>
      rw [added] at malformed
      obtain ⟨other, member, noField⟩ := ih malformed
      exact ⟨other, List.mem_cons_of_mem _ member, noField⟩

/-- The first line that finds no room, behind fields only, is one too many. -/
theorem foldlM_addLine_eq_overflow_iff :
    (lines.map FieldLine.field).foldlM Headers.addLine {} = .error .overflow ↔
      ∃ early, early <+: lines ∧ (∀ line ∈ early, line.IsField) ∧ ¬ HaveRoom early := by
  constructor
  · intro overflow
    induction lines using List.reverseRecOn with
    | nil => cases overflow
    | append_singleton lines line ih =>
      rw [foldlM_addLine_concat] at overflow
      cases read : (lines.map FieldLine.field).foldlM Headers.addLine {} with
      | error fault =>
        rw [read] at overflow
        cases overflow
        obtain ⟨early, isPrefix, only⟩ := ih read
        exact ⟨early, isPrefix.trans (List.prefix_append ..), only⟩
      | ok before =>
        rw [read] at overflow
        obtain ⟨-, fields, held, rfl⟩ := foldlM_addLine_eq_ok_iff.mp read
        obtain ⟨full, isField⟩ := Headers.addLine_eq_overflow_iff.mp overflow
        rw [length_groups_of_heldAs (heldAs_of_mapM_readField? held)] at full
        have areFields := isSome_mapM_readField?_iff.mp (Option.isSome_of_eq_some held)
        refine ⟨lines ++ [line], List.prefix_rfl,
          List.forall_mem_append.mpr ⟨areFields, List.forall_mem_singleton.mpr isField⟩, ?_⟩
        rw [HaveRoom, List.dropLast_concat]
        exact Nat.not_lt.mpr full
  · rintro ⟨early, ⟨later, rfl⟩, areFields, noRoom⟩
    have overflow : (early.map FieldLine.field).foldlM Headers.addLine {} = .error .overflow := by
      cases read : (early.map FieldLine.field).foldlM Headers.addLine {} with
      | ok headers => exact absurd (foldlM_addLine_eq_ok_iff.mp read).1 noRoom
      | error fault =>
        cases fault with
        | overflow => rfl
        | malformed =>
          obtain ⟨line, member, noField⟩ := exists_not_isField_of_foldlM read
          exact absurd (areFields line member) noField
    rw [List.map_append, List.foldlM_append, overflow]
    rfl

end

/-! ## Heads -/

namespace HeadText

/-- Whether each line after the first finds room. -/
def HasRoom (text : HeadText) : Prop :=
  HaveRoom text.lines

/-- Whether one of the lines after the first is one field too many. -/
def Overflows (text : HeadText) : Prop :=
  ∃ early, early <+: text.lines ∧ (∀ line ∈ early, line.IsField) ∧ ¬ HaveRoom early

/-- The names and values of the lines after the first. -/
def fields (text : HeadText) : List (Bytes × Bytes) :=
  text.lines.map fun line => (line.name, line.trimmed)

/-- The reason as text, without spaces and tabs before it and without blanks behind it. -/
def reason (text : HeadText) : List Char :=
  Text.trimEnd (Text.Utf8.decode (text.status.reason.dropWhile isSpace))

variable {text : HeadText}

theorem parse_bytes_eq_ok_iff {head : ResponseHead} :
    ResponseHead.parse text.bytes = .ok head ↔
      text.HasRoom ∧ ∃ fields, (text.lines.map FieldLine.field).mapM readField? = some fields ∧
        text.headOf (.ofList fields) = head := by
  rw [parse_bytes, HasRoom]
  cases added : (text.lines.map FieldLine.field).foldlM Headers.addLine {} with
  | error fault =>
    refine ⟨nofun, fun ⟨room, fields, held, _⟩ => ?_⟩
    rw [foldlM_addLine_eq_ok_iff.mpr ⟨room, fields, held, rfl⟩] at added
    cases added
  | ok headers =>
    obtain ⟨room, fields, held, rfl⟩ := foldlM_addLine_eq_ok_iff.mp added
    simp [Except.map, room, held]

theorem parse_bytes_overflow_iff :
    ResponseHead.parse text.bytes = .error .overflow ↔ text.Overflows := by
  rw [parse_bytes, Overflows, ← foldlM_addLine_eq_overflow_iff]
  cases (text.lines.map FieldLine.field).foldlM Headers.addLine {} <;> simp [Except.map]

end HeadText

theorem parse_overflow_iff :
    ResponseHead.parse bytes = .error .overflow ↔
      ∃ text : HeadText, text.Overflows ∧ text.bytes = bytes := by
  constructor
  · intro read
    obtain ⟨text, rfl⟩ := @parse_sound bytes (by rw [read]; nofun)
    exact ⟨text, HeadText.parse_bytes_overflow_iff.mp read, rfl⟩
  · rintro ⟨text, overflows, rfl⟩
    exact HeadText.parse_bytes_overflow_iff.mpr overflows

theorem ResponseHead.parse?_eq_some_iff {head : ResponseHead} :
    parse? bytes = some head ↔ parse bytes = .ok head := by
  rw [parse?]
  cases parse bytes <;> simp [Except.toOption]

/-- A head with no more lines than headers can hold names is read as its fields. -/
theorem HeadText.parse?_bytes_of_short {text : HeadText} {fields : List (HeaderName × HeaderValue)}
    (held : (text.lines.map FieldLine.field).mapM readField? = some fields)
    (short : text.lines.length ≤ Headers.capacity) :
    ResponseHead.parse? text.bytes = some (text.headOf (.ofList fields)) := by
  have room : text.HasRoom := haveRoom_of_length_le short
  exact ResponseHead.parse?_eq_some_iff.mpr (parse_bytes_eq_ok_iff.mpr ⟨room, fields, held, rfl⟩)

end WebSocket.Http
