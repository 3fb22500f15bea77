import WebSocket.Bytes

/-! # DER elements

A certificate is a nest of elements, each a tag, the size of its contents and the contents. Every
size has exactly one form: below 128 it is one byte, above that the count of its bytes goes first
and the fewest bytes that hold it follow. The main statement says that taking an element off leaves
less (`length_lt_of_take?`), so that a run of elements can be read to its end.
-/

namespace WebSocket.Der

/-- The kinds of elements that certificates are made of. -/
inductive Tag where
  | boolean
  | integer
  | bitString
  | octetString
  | objectName
  | sequence
  /-- The first field of a certificate, left out in the oldest ones. -/
  | version
  /-- The last field of a certificate, which may be left out. -/
  | extensions
deriving DecidableEq, Repr

def Tag.byte : Tag → UInt8
  | boolean => 0x01
  | integer => 0x02
  | bitString => 0x03
  | octetString => 0x04
  | objectName => 0x06
  | sequence => 0x30
  | version => 0xA0
  | extensions => 0xA3

/-- A size and what follows it. Elements of 65535 bytes and more are not read. -/
def takeSize? : Bytes → Option (Nat × Bytes)
  | 0x81 :: size :: rest => if size < 0x80 then none else some (size.toNat, rest)
  | 0x82 :: high :: low :: rest =>
    let size := high.toNat * 256 + low.toNat
    if size < 0x100 || 0xFFFF ≤ size then none else some (size, rest)
  | size :: rest => if size < 0x80 then some (size.toNat, rest) else none
  | [] => none

theorem length_lt_of_takeSize? {bytes rest : Bytes} {size : Nat}
    (taken : takeSize? bytes = some (size, rest)) : rest.length < bytes.length := by
  unfold takeSize? at taken
  split at taken
  · split at taken
    · cases taken
    · obtain ⟨-, rfl⟩ := Prod.mk.inj (Option.some.inj taken)
      simp only [List.length_cons]
      omega
  · dsimp only at taken
    split at taken
    · cases taken
    · obtain ⟨-, rfl⟩ := Prod.mk.inj (Option.some.inj taken)
      simp only [List.length_cons]
      omega
  · split at taken
    · obtain ⟨-, rfl⟩ := Prod.mk.inj (Option.some.inj taken)
      exact Nat.lt_succ_self _
    · cases taken
  · cases taken

/-- The contents of an element of one kind, and what follows the element. -/
def take? (tag : Tag) : Bytes → Option (Bytes × Bytes)
  | [] => none
  | first :: rest =>
    if first = tag.byte then (takeSize? rest).bind fun (size, rest) => Bytes.cut? size rest
    else none

/-- What follows an element is shorter than what began with it. -/
theorem length_lt_of_take? {tag : Tag} {bytes contents rest : Bytes}
    (taken : take? tag bytes = some (contents, rest)) : rest.length < bytes.length := by
  cases bytes with
  | nil => simp [take?] at taken
  | cons first after =>
    simp only [take?] at taken
    split at taken
    · obtain ⟨⟨size, body⟩, sized, cut⟩ := Option.bind_eq_some_iff.mp taken
      have shorter := length_lt_of_takeSize? sized
      obtain ⟨-, whole⟩ := Bytes.cut?_eq_some_iff.mp cut
      have := congrArg List.length whole
      simp only [List.length_append] at this
      simp only [List.length_cons]
      omega
    · simp at taken

/-- The contents of an element of one kind with nothing behind it. -/
def whole? (tag : Tag) (bytes : Bytes) : Option Bytes :=
  match take? tag bytes with
  | some (contents, []) => some contents
  | _ => none

end WebSocket.Der
