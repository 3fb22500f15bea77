/-! # Bytes and text

A payload, a request and everything on the wire is a list of octets. This module holds what the
protocol needs of them: the UTF-8 bytes of a text and back, a cut that insists on its length, and
numbers written most significant byte first. The main statements say that a cut loses nothing
(`cut?_eq_some_iff`) and that writing a number and reading it are inverse (`readBe_writeBe`).
-/

namespace WebSocket

/-- A string of octets. -/
abbrev Bytes := List UInt8

namespace Bytes

/-! ## Text -/

/-- The UTF-8 bytes of a text. -/
def ofString (text : String) : Bytes :=
  text.toByteArray.data.toList

/-- Whether the bytes are the UTF-8 form of some text. -/
def isUtf8 (bytes : Bytes) : Bool :=
  bytes.toByteArray.validateUTF8

/-- The text that the bytes spell, when they are valid UTF-8. -/
def text? (bytes : Bytes) : Option String :=
  String.fromUTF8? bytes.toByteArray

/-! ## Cutting -/

/-- Cuts off exactly `count` bytes, or refuses when there are fewer. -/
def cut? (count : Nat) (bytes : Bytes) : Option (Bytes × Bytes) :=
  go count bytes []
where
  /-- The list `taken` holds the bytes cut off so far, last one first. -/
  go : Nat → Bytes → Bytes → Option (Bytes × Bytes)
    | 0, rest, taken => some (taken.reverse, rest)
    | _ + 1, [], _ => none
    | count + 1, byte :: rest, taken => go count rest (byte :: taken)

theorem cut?_go_eq_some_iff {count : Nat} {bytes taken front rest : Bytes} :
    cut?.go count bytes taken = some (front, rest) ↔
      ∃ middle, middle.length = count ∧ bytes = middle ++ rest ∧
        front = taken.reverse ++ middle := by
  induction count generalizing bytes taken with
  | zero =>
    simp only [cut?.go, Option.some.injEq, Prod.mk.injEq, List.length_eq_zero_iff]
    constructor
    · rintro ⟨rfl, rfl⟩
      exact ⟨[], rfl, rfl, by simp⟩
    · rintro ⟨middle, rfl, rfl, rfl⟩
      simp
  | succ count ih =>
    cases bytes with
    | nil =>
      simp only [cut?.go, reduceCtorEq, false_iff, not_exists]
      rintro middle ⟨size, empty, -⟩
      have := congrArg List.length empty
      simp at this
      omega
    | cons byte bytes =>
      simp only [cut?.go, ih]
      constructor
      · rintro ⟨middle, size, rfl, rfl⟩
        exact ⟨byte :: middle, by simp [size], by simp, by simp⟩
      · rintro ⟨middle, size, whole, rfl⟩
        cases middle with
        | nil => simp at size
        | cons first middle =>
          simp only [List.cons_append, List.cons.injEq] at whole
          obtain ⟨rfl, rfl⟩ := whole
          exact ⟨middle, by simpa using size, rfl, by simp⟩

/-- A cut succeeds exactly when it splits the bytes after `count` of them. -/
theorem cut?_eq_some_iff {count : Nat} {bytes front rest : Bytes} :
    cut? count bytes = some (front, rest) ↔ front.length = count ∧ bytes = front ++ rest := by
  simp only [cut?, cut?_go_eq_some_iff, List.reverse_nil, List.nil_append]
  constructor
  · rintro ⟨middle, size, whole, rfl⟩
    exact ⟨size, whole⟩
  · rintro ⟨size, whole⟩
    exact ⟨front, size, whole, rfl⟩

/-! ## Numbers -/

/-- The number that the bytes spell, most significant byte first. -/
def readBe (bytes : Bytes) : Nat :=
  bytes.foldl (fun number byte => number * 256 + byte.toNat) 0

/-- The last `width` bytes of a number, most significant byte first. -/
def writeBe (width number : Nat) : Bytes :=
  match width with
  | 0 => []
  | width + 1 => writeBe width (number / 256) ++ [UInt8.ofNat number]

@[simp] theorem length_writeBe (width number : Nat) : (writeBe width number).length = width := by
  induction width generalizing number with
  | zero => rfl
  | succ width ih => simp [writeBe, ih]

/-- How many numbers a width can hold. -/
def range : Nat → Nat
  | 0 => 1
  | width + 1 => 256 * range width

/-- Reading back a written number gives it modulo what the width can hold. -/
theorem readBe_writeBe (width number : Nat) :
    readBe (writeBe width number) = number % range width := by
  induction width generalizing number with
  | zero => exact (Nat.mod_one number).symm
  | succ width ih =>
    have earlier := ih (number / 256)
    rw [readBe] at earlier
    rw [writeBe, readBe, List.foldl_append, earlier, range, Nat.mod_mul]
    simp only [List.foldl_cons, List.foldl_nil, UInt8.toNat_ofNat']
    omega

/-- A number that the width can hold is read back. -/
theorem readBe_writeBe_of_lt {width number : Nat} (fits : number < range width) :
    readBe (writeBe width number) = number := by
  rw [readBe_writeBe, Nat.mod_eq_of_lt fits]

end Bytes

end WebSocket
