import WebSocket.Http.Response

/-! # Finding the end of a response head

A response arrives in pieces. A scanner is shown the buffer after each piece and looks for the empty
line that ends the head; it remembers how far it has looked, and looks at three bytes again because
the end may lie across two pieces. A buffer that has grown beyond `maxHead` bytes without showing
the end is given up.
-/

namespace WebSocket.Http

/-- The size that a head may reach before its end is seen. -/
def maxHead : Nat := 16384

/-- How many bytes of the buffer have been looked at. -/
structure HeadScanner where
  scanned : Nat := 0
deriving DecidableEq, Repr

/-- What a look at the buffer gives. -/
inductive HeadScan where
  | incomplete (scanner : HeadScanner)
  /-- A head that can be read, and the bytes behind it. -/
  | complete (head : ResponseHead) (rest : Bytes)
  /-- A head that cannot be read, and the bytes behind it. -/
  | malformed (rest : Bytes)
  /-- A head that stops the program, because it has more names than headers can hold. -/
  | overflow
  /-- The buffer is too large for a head that has not ended. -/
  | tooLong
deriving Repr

/-- What is found with a complete head and the bytes behind it. -/
def HeadScan.ofHead (head rest : Bytes) : HeadScan :=
  match ResponseHead.parse head with
  | .ok head => .complete head rest
  | .error .malformed => .malformed rest
  | .error .overflow => .overflow

/-- Whether the end of a head was found, and the head cannot be read. -/
def HeadScan.isUnreadable : HeadScan → Bool
  | .malformed _ | .overflow => true
  | .incomplete _ | .complete .. | .tooLong => false

/-- How many bytes there are up to the end of the first empty line. -/
def headLength? (bytes : Bytes) : Option Nat :=
  go 0 bytes
where
  go (before : Nat) : Bytes → Option Nat
    | 0x0D :: 0x0A :: 0x0D :: 0x0A :: _ => some (before + 4)
    | _ :: rest => go (before + 1) rest
    | [] => none

/-- Looks at a buffer of which the first `scanned` bytes have been looked at before. -/
def HeadScanner.scan (scanner : HeadScanner) (buffer : Bytes) : HeadScan :=
  let start := scanner.scanned - 3
  match headLength? (buffer.drop start) with
  | some length =>
    let (head, rest) := buffer.splitAt (start + length)
    .ofHead head rest
  | none => if maxHead < buffer.length then .tooLong else .incomplete ⟨buffer.length⟩

/-! ## Reading from a stream -/

/-- A response head that is being read: the bytes so far, how many the buffer can hold, and the
scanner. -/
structure HeadReader where
  buffer : Bytes := []
  capacity : Nat := 1024
  scanner : HeadScanner := {}
deriving DecidableEq, Repr

namespace HeadReader

/-- The capacity for the next read: a full buffer doubles. -/
def nextCapacity (reader : HeadReader) : Nat :=
  if reader.buffer.length < reader.capacity then reader.capacity
  else max 1024 (2 * reader.buffer.length)

theorem length_lt_nextCapacity (reader : HeadReader) :
    reader.buffer.length < reader.nextCapacity := by
  unfold nextCapacity
  split <;> omega

/-- Fills the buffer from the bytes that are there and looks at it. Gives what was found, the
reader, and the bytes that did not fit. -/
def read (reader : HeadReader) (bytes : Bytes) : HeadScan × HeadReader × Bytes :=
  let (taken, rest) := bytes.splitAt (reader.nextCapacity - reader.buffer.length)
  let buffer := reader.buffer ++ taken
  let found := reader.scanner.scan buffer
  let scanner := match found with
    | .incomplete scanner => scanner
    | _ => reader.scanner
  (found, { buffer, capacity := reader.nextCapacity, scanner }, rest)

/-- A read takes at least one byte when there is one. -/
theorem length_read_lt (reader : HeadReader) (bytes : Bytes) (nonempty : bytes ≠ []) :
    (reader.read bytes).2.2.length < bytes.length := by
  have := reader.length_lt_nextCapacity
  have := List.length_pos_iff.mpr nonempty
  simp only [read, List.splitAt_eq, List.length_drop]
  omega

end HeadReader

end WebSocket.Http
