import WebSocket.Bytes

/-! # Base64

Three bytes as four characters of the standard alphabet, with padding.
-/

namespace WebSocket.Text.Base64

/-- The character for a number below 64. -/
def digit (value : Nat) : Char :=
  if value < 26 then .ofNat (65 + value)
  else if value < 52 then .ofNat (71 + value)
  else if value < 62 then .ofNat (value - 4)
  else if value = 62 then '+'
  else '/'

/-- The number that a character stands for. -/
def value? (c : Char) : Option Nat :=
  if 'A' ≤ c ∧ c ≤ 'Z' then some (c.toNat - 65)
  else if 'a' ≤ c ∧ c ≤ 'z' then some (c.toNat - 71)
  else if '0' ≤ c ∧ c ≤ '9' then some (c.toNat + 4)
  else if c = '+' then some 62
  else if c = '/' then some 63
  else none

theorem value?_digit {value : Nat} (small : value < 64) : value? (digit value) = some value := by
  have all : ∀ v ∈ List.range 64, value? (digit v) = some v := by decide
  exact all value (List.mem_range.mpr small)

def encodeChars : Bytes → List Char
  | [] => []
  | [a] =>
    let bits := a.toNat * 16
    [digit (bits / 64), digit (bits % 64), '=', '=']
  | [a, b] =>
    let bits := (a.toNat * 256 + b.toNat) * 4
    [digit (bits / 4096), digit (bits / 64 % 64), digit (bits % 64), '=']
  | a :: b :: c :: rest =>
    let bits := (a.toNat * 256 + b.toNat) * 256 + c.toNat
    digit (bits / 262144) :: digit (bits / 4096 % 64) :: digit (bits / 64 % 64) ::
      digit (bits % 64) :: encodeChars rest

def encode (bytes : Bytes) : String :=
  .ofList (encodeChars bytes)

/-- Reads whole groups of four characters; only the last group may be padded, and the bits that
padding leaves over have to be zero. -/
def decodeChars? : List Char → Option Bytes
  | [] => some []
  | [c0, c1, '=', '='] => do
    let bits := (← value? c0) * 64 + (← value? c1)
    if bits % 16 = 0 then some [.ofNat (bits / 16)] else none
  | [c0, c1, c2, '='] => do
    let bits := ((← value? c0) * 64 + (← value? c1)) * 64 + (← value? c2)
    if bits % 4 = 0 then some [.ofNat (bits / 1024), .ofNat (bits / 4)] else none
  | c0 :: c1 :: c2 :: c3 :: rest => do
    let bits := (((← value? c0) * 64 + (← value? c1)) * 64 + (← value? c2)) * 64 + (← value? c3)
    let bytes ← decodeChars? rest
    some (.ofNat (bits / 65536) :: .ofNat (bits / 256) :: .ofNat bits :: bytes)
  | _ => none

def decode? (text : String) : Option Bytes :=
  decodeChars? text.toList

end WebSocket.Text.Base64
