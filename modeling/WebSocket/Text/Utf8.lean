import WebSocket.Bytes

/-! # Forgiving UTF-8

Bytes read as text, whatever they are. Where they are not valid UTF-8 each maximal beginning of a
character, or else each single byte, becomes one replacement character.
-/

namespace WebSocket.Text.Utf8

/-- U+FFFD, which stands for what could not be read. -/
def replacement : Char := '\uFFFD'

/-- For the first byte of a character: how many bytes follow, and the range of the first of them.
The narrower ranges keep out overlong forms, surrogates and numbers beyond the last code point. -/
def follow? (first : UInt8) : Option (Nat × UInt8 × UInt8) :=
  if first < 0x80 then some (0, 0x80, 0xBF)
  else if first < 0xC2 then none
  else if first < 0xE0 then some (1, 0x80, 0xBF)
  else if first = 0xE0 then some (2, 0xA0, 0xBF)
  else if first = 0xED then some (2, 0x80, 0x9F)
  else if first < 0xF0 then some (2, 0x80, 0xBF)
  else if first = 0xF0 then some (3, 0x90, 0xBF)
  else if first < 0xF4 then some (3, 0x80, 0xBF)
  else if first = 0xF4 then some (3, 0x80, 0x8F)
  else none

/-- Takes up to `count` following bytes, the first one from the given range. -/
def takeFollowing : Nat → UInt8 → UInt8 → Bytes → Bytes × Bytes
  | count + 1, low, high, byte :: rest =>
    if low ≤ byte && byte ≤ high then
      let (taken, rest) := takeFollowing count 0x80 0xBF rest
      (byte :: taken, rest)
    else ([], byte :: rest)
  | _, _, _, rest => ([], rest)

theorem length_takeFollowing (count : Nat) (low high : UInt8) (bytes : Bytes) :
    (takeFollowing count low high bytes).2.length ≤ bytes.length := by
  fun_induction takeFollowing count low high bytes <;> simp_all; omega

/-- The code point of a first byte with `count` following bytes. -/
def codePoint (first : UInt8) (following : Bytes) : Nat :=
  following.foldl (fun value byte => value * 64 + byte.toNat % 64)
    (if following.isEmpty then first.toNat else first.toNat % (64 >>> following.length))

/-- The characters of the bytes, with replacements. -/
def decode : Bytes → List Char
  | [] => []
  | first :: rest =>
    match follow? first with
    | none => replacement :: decode rest
    | some (count, low, high) =>
      let following := (takeFollowing count low high rest).1
      (if following.length = count then .ofNat (codePoint first following) else replacement) ::
        decode (takeFollowing count low high rest).2
termination_by bytes => bytes.length
decreasing_by
  · simp
  · exact Nat.lt_succ_of_le (length_takeFollowing ..)

end WebSocket.Text.Utf8
