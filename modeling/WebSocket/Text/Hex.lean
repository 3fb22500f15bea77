/-! # Hexadecimal digits

The sixteen digits in both directions. Written ones are capital letters; either case is read.
-/

namespace WebSocket.Text.Hex

/-- The upper-case digit for a number below 16. -/
def digit (value : Nat) : Char :=
  if value < 10 then .ofNat (48 + value) else .ofNat (55 + value)

/-- The value of a digit in either case. -/
def value? (c : Char) : Option Nat :=
  if '0' ≤ c ∧ c ≤ '9' then some (c.toNat - 48)
  else if 'a' ≤ c ∧ c ≤ 'f' then some (c.toNat - 87)
  else if 'A' ≤ c ∧ c ≤ 'F' then some (c.toNat - 55)
  else none

theorem value?_digit {value : Nat} (small : value < 16) : value? (digit value) = some value := by
  have all : ∀ v ∈ List.range 16, value? (digit v) = some v := by decide
  exact all value (List.mem_range.mpr small)

/-- The number that digits spell; any other character counts as zero. -/
def number (digits : List Char) : Nat :=
  digits.foldl (fun number c => number * 16 + (value? c).getD 0) 0

end WebSocket.Text.Hex
