import WebSocket.Bytes
import WebSocket.Text.Hex
import WebSocket.Url.Error

/-! # IPv4 hosts

A host whose last label is a number is an IPv4 address, in any of the forms that the
numbers-and-dots notation knows: up to four parts, each decimal, octal after `0` or hexadecimal
after `0x`, where the last part fills all bytes that are left.
-/

namespace WebSocket.Url.Ipv4

/-- The number that digits of a base spell. -/
def number? (base : Nat) (digits : List Char) : Option Nat :=
  digits.foldlM (fun number digit => do
    let value ← Text.Hex.value? digit
    if value < base then some (number * base + value) else none) 0

/-- One part of an address. A base mark without digits counts as zero. -/
def part? (chars : List Char) : Option Nat :=
  match chars with
  | [] => none
  | '0' :: 'x' :: digits | '0' :: 'X' :: digits => number? 16 digits
  | '0' :: digit :: digits => number? 8 (digit :: digits)
  | digits => number? 10 digits

/-- The labels of a domain, without the empty one after a final dot. -/
def labels (domain : List Char) : List (List Char) :=
  let labels := domain.splitOn '.'
  if labels.getLast? = some [] then labels.dropLast else labels

/-- Whether the domain has to be read as an IPv4 address. -/
def endsInNumber (domain : List Char) : Bool :=
  match (labels domain).getLast? with
  | none => false
  | some last => (!last.isEmpty && last.all Char.isDigit) || (part? last).isSome

/-- The 32-bit address that a domain spells. -/
def parse (domain : List Char) : Except ParseError Nat :=
  let parts := labels domain
  match parts.mapM part? with
  | none => .error .invalidIpv4
  | some numbers =>
    let leading := numbers.dropLast
    let last := numbers.getLastD 0
    if 4 < parts.length || leading.any (255 < ·) || Bytes.range (4 - leading.length) ≤ last then
      .error .invalidIpv4
    else
      .ok (leading.zipIdx.foldl (fun address (number, index) =>
        address + number * Bytes.range (3 - index)) last)

/-- Four decimal bytes with dots between them. -/
def render (address : Nat) : String :=
  String.intercalate "." ((Bytes.writeBe 4 address).map fun byte => toString byte.toNat)

end WebSocket.Url.Ipv4
