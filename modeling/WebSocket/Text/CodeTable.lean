import WebSocket.Text.Hex

/-! # Tables over code points

A property of characters is a table: ranges of code points, ascending and apart, each with a value.
Tables are written as text, one word a range, such as `41-5A:value`, all numbers hexadecimal. A
range that counts every second code point only ends in `/2`.
-/

namespace WebSocket.Text

/-- Consecutive code points that share a value, both ends included. -/
structure CodeRange (α : Type) where
  first : Nat
  last : Nat
  value : α

/-- Ranges, ascending and apart. -/
abbrev CodeTable (α : Type) := Array (CodeRange α)

namespace CodeTable

variable {α : Type}

/-- Looks between two places for the range that holds a code point. -/
def findBetween (table : CodeTable α) (code low high : Nat) : Option (CodeRange α) :=
  if low < high then
    let middle := (low + high) / 2
    match table[middle]? with
    | none => none
    | some range =>
      if code < range.first then findBetween table code low middle
      else if range.last < code then findBetween table code (middle + 1) high
      else some range
  else none
termination_by high - low
decreasing_by all_goals omega

/-- The range that holds a code point. -/
def find? (table : CodeTable α) (code : Nat) : Option (CodeRange α) :=
  findBetween table code 0 table.size

/-- The value of a code point. -/
def value? (table : CodeTable α) (code : Nat) : Option α :=
  (table.find? code).map (·.value)

/-- The least code point with a value. -/
def code? [DecidableEq α] (table : CodeTable α) (value : α) : Option Nat :=
  (Array.find? (·.value = value) table).map (·.first)

/-! ## Written tables -/

/-- One word of a written table: the ends of a range, the distance between the code points that
count, and what stands behind the colon. -/
structure Word where
  first : Nat
  last : Nat
  step : Nat
  text : List Char

def Word.read (word : List Char) : Word :=
  let (range, text) := word.span (· ≠ ':')
  let (ends, step) := range.span (· ≠ '/')
  let (first, last) := ends.span (· ≠ '-')
  let first := Hex.number first
  { first
    last := if last.isEmpty then first else Hex.number (last.drop 1)
    step := if step.isEmpty then 1 else Hex.number (step.drop 1)
    text := text.drop 1 }

/-- The words of a written table. -/
def words (text : String) : List Word :=
  ((text.toList.splitOnP Char.isWhitespace).filter (!·.isEmpty)).map Word.read

/-- The code points of a word, each with the numbers it stands for: the items of a list in turn, or
one number that moves along with the range. -/
def Word.items (word : Word) : List (Nat × List Nat) :=
  let items := (word.text.splitOn ',').map fun item => (item.splitOn '.').map Hex.number
  match items with
  | [[target]] =>
    (List.range ((word.last - word.first) / word.step + 1)).map fun index =>
      (word.first + index * word.step, [target + index * word.step])
  | items => items.zipIdx.map fun (item, index) => (word.first + index, item)

/-- The table from code points to texts that a text spells. -/
def ofItems (text : String) : CodeTable (List Char) :=
  (((words text).flatMap Word.items).map fun (code, item) =>
    ⟨code, code, item.map Char.ofNat⟩).toArray

/-- The table that a text spells, given how its values are read. -/
def ofText (value : List Char → α) (text : String) : CodeTable α :=
  ((words text).map fun word => ⟨word.first, word.last, value word.text⟩).toArray

end CodeTable

end WebSocket.Text
