/-! # Punycode

Labels beyond ASCII travel as ASCII: the ASCII characters of the label come first, and the others
follow as insertions in ascending order, each a difference from the one before, written as a number
of variable length whose digit weights adapt to the numbers seen so far.
-/

namespace WebSocket.Url.Punycode

/-- The digit for a value below 36. -/
def digit (value : Nat) : Char :=
  if value < 26 then .ofNat (97 + value) else .ofNat (22 + value)

def value? (c : Char) : Option Nat :=
  if 'a' ≤ c ∧ c ≤ 'z' then some (c.toNat - 97)
  else if 'A' ≤ c ∧ c ≤ 'Z' then some (c.toNat - 65)
  else if '0' ≤ c ∧ c ≤ '9' then some (c.toNat - 22)
  else none

theorem value?_digit {value : Nat} (small : value < 36) : value? (digit value) = some value := by
  have all : ∀ v ∈ List.range 36, value? (digit v) = some v := by decide
  exact all value (List.mem_range.mpr small)

/-- The bias before the first insertion. -/
def firstBias : Nat := 72

/-- The value below which the digit at `position` ends its number. -/
def threshold (position bias : Nat) : Nat :=
  max 1 (min 26 (position - bias))

/-- Brings a difference below the range of a full digit and counts the digits that this takes. -/
def reduce (delta digits : Nat) : Nat × Nat :=
  if 455 < delta then reduce (delta / 35) (digits + 36) else (delta, digits)
termination_by delta
decreasing_by omega

/-- The bias after a difference, with `count` characters placed. -/
def adapt (delta count : Nat) (first : Bool) : Nat :=
  let damped := if first then delta / 700 else delta / 2
  let (rest, digits) := reduce (damped + damped / count) 0
  digits + 36 * rest / (rest + 38)

/-- A number in digits of variable weight, the least significant one first. -/
def writeNumber (bias position number : Nat) : List Char :=
  let limit := threshold position bias
  if number < limit then [digit number]
  else
    digit (limit + (number - limit) % (36 - limit)) ::
      writeNumber bias (position + 36) ((number - limit) / (36 - limit))
termination_by number
decreasing_by
  have low : 1 ≤ threshold position bias := Nat.le_max_left ..
  have := Nat.div_le_self (number - threshold position bias) (36 - threshold position bias)
  omega

/-- Reads a number and returns it with what follows. -/
def readNumber (bias position weight number : Nat) : List Char → Option (Nat × List Char)
  | [] => none
  | c :: rest => do
    let value ← value? c
    let limit := threshold position bias
    let number := number + value * weight
    if value < limit then some (number, rest)
    else readNumber bias (position + 36) (weight * (36 - limit)) number rest

theorem length_lt_of_readNumber {bias position weight number : Nat} {chars : List Char}
    {read : Nat × List Char} (success : readNumber bias position weight number chars = some read) :
    read.2.length < chars.length := by
  induction chars generalizing position weight number with
  | nil => simp [readNumber] at success
  | cons c rest ih =>
    simp only [readNumber, bind, Option.bind_eq_some_iff] at success
    obtain ⟨value, -, success⟩ := success
    split at success
    · cases success
      simp
    · have := ih success
      simp only [List.length_cons]
      omega

/-- Where the encoder stands: what is written, the difference since then, the bias, and how many
characters are placed. -/
structure Encoder where
  written : List Char := []
  delta : Nat := 0
  bias : Nat := firstBias
  placed : Nat

/-- Passes one character of the label while `code` is being placed. -/
def Encoder.pass (basic code : Nat) (encoder : Encoder) (c : Char) : Encoder :=
  if c.toNat < code then { encoder with delta := encoder.delta + 1 }
  else if c.toNat = code then
    { written := encoder.written ++ writeNumber encoder.bias 36 encoder.delta
      delta := 0
      bias := adapt encoder.delta (encoder.placed + 1) (encoder.placed = basic)
      placed := encoder.placed + 1 }
  else encoder

/-- Places the code points in ascending order, `next` being the least that is still to come. -/
def placeAll (label : List Char) (basic : Nat) : Nat → List Nat → Encoder → Encoder
  | _, [], encoder => encoder
  | next, code :: codes, encoder =>
    let jumped := { encoder with delta := encoder.delta + (code - next) * (encoder.placed + 1) }
    let passed := label.foldl (Encoder.pass basic code) jumped
    placeAll label basic (code + 1) codes { passed with delta := passed.delta + 1 }

/-- The ASCII form of a label, without the mark that goes before it. -/
def encode (label : List Char) : List Char :=
  let basic := label.filter (·.toNat < 0x80)
  let codes := ((label.filter (0x80 ≤ ·.toNat)).map Char.toNat).mergeSort.eraseReps
  let placed := placeAll label basic.length 0x80 codes { placed := basic.length }
  basic ++ (if basic.isEmpty then [] else ['-']) ++ placed.written

/-- Inserts the characters that the numbers describe. -/
def insertAll (bias next place : Nat) (label chars : List Char) : Option (List Char) :=
  if chars = [] then some label
  else
    match read : readNumber bias 36 1 place chars with
    | none => none
    | some (sum, rest) =>
      have := length_lt_of_readNumber read
      let count := label.length + 1
      let code := next + sum / count
      if !code.isValidChar then none
      else
        insertAll (adapt (sum - place) count (place = 0)) code (sum % count + 1)
          (label.insertIdx (sum % count) (.ofNat code)) rest
termination_by chars.length

/-- The label that an ASCII form stands for. The last hyphen parts the ASCII characters from the
numbers, and it does not stand where there are no ASCII characters. -/
def decode? (chars : List Char) : Option (List Char) :=
  let (numbers, front) := chars.reverse.span (· ≠ '-')
  match front with
  | ['-'] => none
  | _ =>
    let basic := (front.drop 1).reverse
    if basic.all (·.toNat < 0x80) then insertAll firstBias 0x80 0 basic numbers.reverse else none

end WebSocket.Url.Punycode
