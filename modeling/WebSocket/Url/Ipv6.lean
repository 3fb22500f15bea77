import WebSocket.Text.Hex
import WebSocket.Url.Error

/-! # IPv6 hosts

Eight groups of up to four hexadecimal digits. One run of zero groups may be left out, and the last
two groups may be written as an IPv4 address.
-/

namespace WebSocket.Url.Ipv6

/-- Up to four hexadecimal digits: their value, how many there were, and what follows. -/
def takeGroup (chars : List Char) : Nat × Nat × List Char :=
  go 4 0 0 chars
where
  go : Nat → Nat → Nat → List Char → Nat × Nat × List Char
    | room + 1, value, count, c :: rest =>
      match Text.Hex.value? c with
      | some digit => go room (value * 16 + digit) (count + 1) rest
      | none => (value, count, c :: rest)
    | _, value, count, rest => (value, count, rest)

/-- One decimal byte without superfluous zeros. -/
def ipv4Byte? (digits : List Char) : Option Nat :=
  if digits.isEmpty || 3 < digits.length || !digits.all Char.isDigit
      || (1 < digits.length && digits.head? = some '0') then none
  else
    let value := digits.foldl (fun value digit => value * 10 + (digit.toNat - 48)) 0
    if value ≤ 255 then some value else none

/-- The two groups that a trailing IPv4 address stands for. -/
def ipv4Groups? (chars : List Char) : Option (List Nat) := do
  match ← (chars.splitOn '.').mapM ipv4Byte? with
  | [a, b, c, d] => some [a * 256 + b, c * 256 + d]
  | _ => none

/-- The groups of an address, and at which of them a run of zeros was left out. -/
structure Groups where
  groups : List Nat := []
  gap : Option Nat := none

/-- Reads groups up to the end. `room` bounds how many may still come. -/
def readGroups : Nat → Groups → List Char → Option Groups
  | _, read, [] => some read
  | 0, _, _ => none
  | room + 1, read, ':' :: rest =>
    if read.gap.isSome then none
    else readGroups room { read with gap := some read.groups.length } rest
  | room + 1, read, chars =>
    let (value, count, rest) := takeGroup chars
    match rest with
    | '.' :: _ =>
      if count = 0 || 6 < read.groups.length then none
      else (ipv4Groups? chars).map fun last => { read with groups := read.groups ++ last }
    | [':'] => none
    | ':' :: rest => readGroups room { read with groups := read.groups ++ [value] } rest
    | [] => some { read with groups := read.groups ++ [value] }
    | _ => none

/-- The eight groups that the text between the brackets spells. -/
def parse (chars : List Char) : Except ParseError (List Nat) :=
  let start := match chars with
    | ':' :: ':' :: rest => some ({ gap := some 0 : Groups }, rest)
    | ':' :: _ => none
    | _ => some ({}, chars)
  match start.bind fun (read, rest) => readGroups 9 read rest with
  | none => .error .invalidIpv6
  | some { groups, gap := none } => if groups.length = 8 then .ok groups else .error .invalidIpv6
  | some { groups, gap := some gap } =>
    if groups.length < 8 then
      .ok (groups.take gap ++ List.replicate (8 - groups.length) 0 ++ groups.drop gap)
    else .error .invalidIpv6

/-- How many groups from here on are zero. -/
def zeroRun (groups : List Nat) : Nat :=
  (groups.takeWhile (· = 0)).length

/-- The first longest run of at least two zero groups: where it begins and how long it is. -/
def longestZeroRun (groups : List Nat) : Option (Nat × Nat) :=
  (List.range groups.length).foldl (fun best start =>
    let run := zeroRun (groups.drop start)
    if 2 ≤ run && (best.map (·.2)).getD 0 < run then some (start, run) else best) none

def renderGroups (groups : List Nat) : String :=
  String.intercalate ":" (groups.map fun group => .ofList (Nat.toDigits 16 group))

/-- The shortest text of an address: no leading zeros, and the longest run of zero groups left out.
-/
def render (groups : List Nat) : String :=
  match longestZeroRun groups with
  | none => renderGroups groups
  | some (start, run) =>
    renderGroups (groups.take start) ++ "::" ++ renderGroups (groups.drop (start + run))

end WebSocket.Url.Ipv6
