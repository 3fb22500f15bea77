import WebSocket.Bytes

/-! # HTTP header fields

A header name is a token in small letters, a header value a line of bytes without control
characters; both types hold the check, so no value can end its line. `Headers` keeps the fields of a
message: names in the order in which they first came, each once and with all of its values. The main
statements describe `Headers.append` by the values of each name and by the names.
-/

namespace WebSocket.Http

/-! ## Names -/

/-- The characters of a token. -/
def isTokenByte (byte : UInt8) : Bool :=
  (0x30 ≤ byte && byte ≤ 0x39) || (0x41 ≤ byte && byte ≤ 0x5A) || (0x61 ≤ byte && byte ≤ 0x7A)
    || [0x21, 0x23, 0x24, 0x25, 0x26, 0x27, 0x2A, 0x2B, 0x2D, 0x2E, 0x5E, 0x5F, 0x60, 0x7C,
      0x7E].contains byte

/-- The small letter of an ASCII capital. -/
def lowerByte (byte : UInt8) : UInt8 :=
  if 0x41 ≤ byte && byte ≤ 0x5A then byte + 0x20 else byte

/-- The longest header name. -/
def maxNameLength : Nat := 65535

/-- A header name, in small letters. -/
structure HeaderName where
  bytes : Bytes
  isToken : bytes.all isTokenByte = true
deriving DecidableEq, Repr

theorem isTokenByte_lowerByte {byte : UInt8} (token : isTokenByte byte = true) :
    isTokenByte (lowerByte byte) = true := by
  have all : ∀ n : Fin 256,
      isTokenByte (.ofNat n) = true → isTokenByte (lowerByte (.ofNat n)) = true := by
    decide +kernel
  simpa using all ⟨byte.toNat, byte.toNat_lt⟩ (by simpa using token)

/-- The name that bytes spell in any mixture of capitals and small letters. -/
def HeaderName.ofBytes? (bytes : Bytes) : Option HeaderName :=
  if token : bytes.all isTokenByte = true then
    if bytes.isEmpty || maxNameLength < bytes.length then none
    else some ⟨bytes.map lowerByte, by
      simp only [List.all_map, List.all_eq_true, Function.comp_apply] at token ⊢
      exact fun byte mem => isTokenByte_lowerByte (token byte mem)⟩
  else none

/-! ## Values -/

/-- What a header value may hold: tab, and everything from the space on but DEL. -/
def isValueByte (byte : UInt8) : Bool :=
  byte = 0x09 || (0x20 ≤ byte && byte ≠ 0x7F)

/-- What a header value may hold to be read as text. -/
def isVisibleByte (byte : UInt8) : Bool :=
  byte = 0x09 || (0x20 ≤ byte && byte ≤ 0x7E)

/-- A header value. -/
structure HeaderValue where
  bytes : Bytes
  isLine : bytes.all isValueByte = true
deriving DecidableEq, Repr

def HeaderValue.ofBytes? (bytes : Bytes) : Option HeaderValue :=
  if line : bytes.all isValueByte = true then some ⟨bytes, line⟩ else none

/-- The value as text, when it is visible ASCII. -/
def HeaderValue.text? (value : HeaderValue) : Option String :=
  if value.bytes.all isVisibleByte then Bytes.text? value.bytes else none

/-! ## Header fields of a message -/

theorem nonempty_nil : ∀ group ∈ ([] : List (HeaderName × List HeaderValue)), group.2 ≠ [] := nofun

/-- The values that a message has under each name, names in the order of their first coming. Each
name stands once, and with at least one value. -/
structure Headers where
  groups : List (HeaderName × List HeaderValue) := []
  nodup : (groups.map Prod.fst).Nodup := by exact List.nodup_nil
  nonempty : ∀ group ∈ groups, group.2 ≠ [] := by exact WebSocket.Http.nonempty_nil
deriving DecidableEq, Repr

namespace Headers

/-- The names, in the order of their first coming. -/
def names (headers : Headers) : List HeaderName :=
  headers.groups.map Prod.fst

/-- How many names headers can hold. -/
def capacity : Nat := 24576

/-- Whether no field can be added any more, not even one of a name that is there. -/
def isFull (headers : Headers) : Bool :=
  capacity ≤ headers.groups.length

/-- Puts a value behind those that a name already has, or adds the name at the end. -/
def addTo (name : HeaderName) (value : HeaderValue) :
    List (HeaderName × List HeaderValue) → List (HeaderName × List HeaderValue)
  | [] => [(name, [value])]
  | (held, before) :: rest =>
    if held = name then (held, before ++ [value]) :: rest
    else (held, before) :: addTo name value rest

section

variable {name : HeaderName} {value : HeaderValue} {groups : List (HeaderName × List HeaderValue)}

/-- A field brings its name, unless it is there already. -/
theorem map_fst_addTo :
    (addTo name value groups).map Prod.fst =
      if name ∈ groups.map Prod.fst then groups.map Prod.fst
      else groups.map Prod.fst ++ [name] := by
  induction groups with
  | nil => rfl
  | cons group rest ih =>
    obtain ⟨held, before⟩ := group
    by_cases same : held = name
    · simp [addTo, same]
    · rw [addTo, if_neg same, List.map_cons, List.map_cons, ih]
      simp only [List.mem_cons, Ne.symm same, false_or]
      split
      · rfl
      · rfl

theorem nodup_addTo (nodup : (groups.map Prod.fst).Nodup) :
    ((addTo name value groups).map Prod.fst).Nodup := by
  rw [map_fst_addTo]
  split
  · exact nodup
  · next fresh =>
    refine List.nodup_append.mpr ⟨nodup, by simp, ?_⟩
    rintro held member _ added rfl
    exact fresh (List.mem_singleton.mp added ▸ member)

theorem nonempty_addTo (nonempty : ∀ group ∈ groups, group.2 ≠ []) :
    ∀ group ∈ addTo name value groups, group.2 ≠ [] := by
  induction groups with
  | nil => simp [addTo]
  | cons group rest ih =>
    obtain ⟨first, later⟩ := List.forall_mem_cons.mp nonempty
    rw [addTo]
    split
    · exact List.forall_mem_cons.mpr ⟨List.append_ne_nil_of_left_ne_nil first _, later⟩
    · exact List.forall_mem_cons.mpr ⟨first, ih later⟩

end

/-- Adds a field behind all others of its name. Only headers with room for it have it added: at full
ones (`isFull`) the program stops. -/
def append (headers : Headers) (name : HeaderName) (value : HeaderValue) : Headers where
  groups := addTo name value headers.groups
  nodup := nodup_addTo headers.nodup
  nonempty := nonempty_addTo headers.nonempty

/-- All values of a name, in order. -/
def getAll (headers : Headers) (name : HeaderName) : List HeaderValue :=
  (headers.groups.lookup name).getD []

/-- The fields line by line. -/
def toList (headers : Headers) : List (HeaderName × HeaderValue) :=
  headers.groups.flatMap fun (name, values) => values.map (name, ·)

/-- The fields as they come when headers are taken apart: of the values that a name has, only the
first one comes with the name. -/
def takenApart (headers : Headers) : List (Option HeaderName × HeaderValue) :=
  headers.groups.flatMap fun
    | (_, []) => []
    | (name, first :: later) => (some name, first) :: later.map (none, ·)

/-- Adds all fields of other headers, which are taken apart for it. -/
def merge (headers added : Headers) : Headers :=
  go none headers added.takenApart
where
  /-- Fields without a name belong to the name that came `last`. -/
  go (last : Option HeaderName) (headers : Headers) :
      List (Option HeaderName × HeaderValue) → Headers
    | [] => headers
    | (named, value) :: rest =>
      match named.or last with
      | some name => go (some name) (headers.append name value) rest
      | none => go none headers rest

/-- The headers whose lines are given. -/
def ofList (fields : List (HeaderName × HeaderValue)) : Headers :=
  fields.foldl (fun headers (name, value) => headers.append name value) {}

theorem lookup_addTo (name asked : HeaderName) (value : HeaderValue)
    (groups : List (HeaderName × List HeaderValue)) :
    ((addTo name value groups).lookup asked).getD [] =
      (groups.lookup asked).getD [] ++ if asked = name then [value] else [] := by
  induction groups with
  | nil =>
    by_cases same : asked = name
    · simp [addTo, same]
    · simp [addTo, List.lookup_cons, beq_eq_false_iff_ne.mpr same, same]
  | cons group rest ih =>
    obtain ⟨held, before⟩ := group
    by_cases hit : asked = held
    · by_cases same : held = name <;> simp [addTo, hit, same]
    · have miss := beq_eq_false_iff_ne.mpr hit
      by_cases same : held = name
      · have other : asked ≠ name := same ▸ hit
        simp [addTo, List.lookup_cons, beq_eq_false_iff_ne.mpr other, same, other]
      · simp [addTo, List.lookup_cons, miss, same, ih]

/-- A field that is added stands behind the other values of its name and changes no other name. -/
theorem getAll_append (headers : Headers) (name asked : HeaderName) (value : HeaderValue) :
    (headers.append name value).getAll asked =
      headers.getAll asked ++ if asked = name then [value] else [] := by
  simp [append, getAll, lookup_addTo]

/-- A field brings its name, unless it is there already. -/
theorem names_append (headers : Headers) (name : HeaderName) (value : HeaderValue) :
    (headers.append name value).names =
      if name ∈ headers.names then headers.names else headers.names ++ [name] :=
  map_fst_addTo

/-- The values of a name that can be read as text, with commas between them. -/
def joined? (headers : Headers) (name : HeaderName) : Option String :=
  match (headers.getAll name).filterMap HeaderValue.text? with
  | [] => none
  | values => some (String.intercalate ", " values)

/-- The same for a name that is given as text; a text that is no name has no values. -/
def joinedByText? (headers : Headers) (name : String) : Option String :=
  (HeaderName.ofBytes? (Bytes.ofString name)).bind headers.joined?

end Headers

end WebSocket.Http
