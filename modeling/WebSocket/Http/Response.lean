import WebSocket.Http.Header
import WebSocket.Text.Blank
import WebSocket.Text.Utf8

/-! # Response heads

A response head is a status line, header lines and an empty line. `ResponseHead.parse` reads one
that is complete; whatever deviates from the grammar anywhere makes the whole head unreadable. Main
statement of this module: every reader gives back a proper rest of its input, so reading ends.
-/

namespace WebSocket.Http

/-- What a server answers before the first frame. -/
structure ResponseHead where
  status : Nat := 0
  reason : String := ""
  headers : Headers := {}
deriving DecidableEq, Repr

/-- The end of a line. -/
def crlf : Bytes := [0x0D, 0x0A]

def isSpace (byte : UInt8) : Bool := byte = 0x20 || byte = 0x09

def isDigit (byte : UInt8) : Bool := 0x30 ≤ byte && byte ≤ 0x39

def isLineEnd (byte : UInt8) : Bool := byte = 0x0D || byte = 0x0A

/-- What is left after an expected beginning. -/
def dropExpected? : Bytes → Bytes → Option Bytes
  | [], bytes => some bytes
  | expected :: more, byte :: bytes => if byte = expected then dropExpected? more bytes else none
  | _ :: _, [] => none

/-- The longest beginning of bytes of a class, which must not be empty, and what is left. -/
def takeSome? (inClass : UInt8 → Bool) (bytes : Bytes) : Option (Bytes × Bytes) :=
  if (bytes.takeWhile inClass).isEmpty then none
  else some (bytes.takeWhile inClass, bytes.dropWhile inClass)

/-- All of a line up to its end, less the blanks at its beginning, and what is left. -/
def takeLine (bytes : Bytes) : Bytes × Bytes :=
  let line := bytes.dropWhile isSpace
  (line.takeWhile (!isLineEnd ·), line.dropWhile (!isLineEnd ·))

/-- The number that decimal digits spell. -/
def decimal (digits : Bytes) : Nat :=
  digits.foldl (fun number digit => number * 10 + (digit.toNat - 48)) 0

/-- The largest status that is read. -/
def maxStatus : Nat := 65535

/-- Status and reason of a status line, and what is left after it. -/
def takeStatusLine? (bytes : Bytes) : Option (Nat × Bytes × Bytes) := do
  let rest ← dropExpected? (Bytes.ofString "HTTP/") bytes
  let (_, rest) ← takeSome? (fun byte => isDigit byte || byte = 0x2E) rest
  let (_, rest) ← takeSome? isSpace rest
  let (digits, rest) ← takeSome? isDigit rest
  if maxStatus < decimal digits then none
  let (reason, rest) := takeLine rest
  let rest ← dropExpected? crlf rest
  return (decimal digits, reason, rest)

/-- Name and value of a header line, and what is left after it. -/
def takeField? (bytes : Bytes) : Option ((Bytes × Bytes) × Bytes) := do
  let (name, rest) ← takeSome? isTokenByte bytes
  let rest ← dropExpected? [0x3A] rest
  let (value, rest) := takeLine rest
  let rest ← dropExpected? crlf rest
  return ((name, value), rest)

theorem length_dropExpected? {expected bytes rest : Bytes}
    (success : dropExpected? expected bytes = some rest) :
    rest.length + expected.length = bytes.length := by
  induction expected generalizing bytes with
  | nil => simp_all [dropExpected?]
  | cons first more ih =>
    cases bytes with
    | nil => simp [dropExpected?] at success
    | cons byte bytes =>
      simp only [dropExpected?, Option.ite_none_right_eq_some] at success
      have := ih success.2
      simp only [List.length_cons]
      omega

theorem length_takeSome? {inClass : UInt8 → Bool} {bytes taken rest : Bytes}
    (success : takeSome? inClass bytes = some (taken, rest)) : rest.length ≤ bytes.length := by
  rw [takeSome?] at success
  split at success
  · simp at success
  · cases success
    exact (List.dropWhile_sublist _).length_le

theorem length_takeLine (bytes : Bytes) : (takeLine bytes).2.length ≤ bytes.length :=
  Nat.le_trans (List.dropWhile_sublist _).length_le (List.dropWhile_sublist _).length_le

theorem length_lt_of_takeField? {bytes rest : Bytes} {field : Bytes × Bytes}
    (success : takeField? bytes = some (field, rest)) : rest.length < bytes.length := by
  simp only [takeField?, bind, Option.bind_eq_some_iff, pure, Option.some.injEq,
    Prod.mk.injEq] at success
  obtain ⟨⟨name, afterName⟩, named, afterColon, colon, tail, ended, -, rfl⟩ := success
  have := length_takeSome? named
  have := length_dropExpected? colon
  have := length_dropExpected? ended
  have := length_takeLine afterColon
  simp only [List.length_cons, List.length_nil] at *
  omega

/-- As many header lines as there are, and what is left after them. -/
def takeFields (bytes : Bytes) : List (Bytes × Bytes) × Bytes :=
  match read : takeField? bytes with
  | none => ([], bytes)
  | some (field, rest) =>
    have := length_lt_of_takeField? read
    let (fields, rest) := takeFields rest
    (field :: fields, rest)
termination_by bytes.length

/-- The value of a header line without the blanks at its end. -/
def trimValue (value : Bytes) : Bytes :=
  (value.reverse.dropWhile fun byte => isSpace byte || byte = 0x0C).reverse

/-- A header line as a field, when its name and its value are valid. -/
def readField? (field : Bytes × Bytes) : Option (HeaderName × HeaderValue) := do
  return (← HeaderName.ofBytes? field.1, ← HeaderValue.ofBytes? (trimValue field.2))

/-- Why a head is not read. -/
inductive HeadFault where
  /-- It deviates from the grammar, or a name or a value in it is none that headers can have. -/
  | malformed
  /-- It has more names than headers can hold, and the program stops. -/
  | overflow
deriving DecidableEq, Repr

/-- Adds a header line to the headers before it. -/
def Headers.addLine (headers : Headers) (line : Bytes × Bytes) : Except HeadFault Headers :=
  match readField? line with
  | none => .error .malformed
  | some (name, value) =>
    if headers.isFull then .error .overflow else .ok (headers.append name value)

namespace ResponseHead

/-- Reads a complete head, from the status line to the empty line. -/
def parse (bytes : Bytes) : Except HeadFault ResponseHead :=
  match takeStatusLine? bytes with
  | none => .error .malformed
  | some (status, reason, rest) =>
    let (lines, rest) := takeFields rest
    if rest ≠ crlf then .error .malformed
    else (lines.foldlM Headers.addLine {}).map fun headers => {
      status
      reason := .ofList (Text.trimEnd (Text.Utf8.decode reason))
      headers }

/-- The head that is read, if one is. -/
def parse? (bytes : Bytes) : Option ResponseHead :=
  (parse bytes).toOption

end ResponseHead

end WebSocket.Http
