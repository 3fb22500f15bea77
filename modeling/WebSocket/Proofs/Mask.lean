import Mathlib.Data.Option.NAry
import Mathlib.Tactic.ByContra
import WebSocket.Mask

/-! # Masking by words and by bytes

Masking four bytes at a time as one machine word is the same as masking byte for byte, whichever
order the machine keeps its bytes in (`apply_eq_cover`). So one end may mask on words of one order
and the other uncover on words of another, and a key undoes itself (`apply_apply`). Because the key
starts again every four bytes, a payload may be masked in pieces, as long as each of them but the
last takes whole turns of the key (`apply_bytewise`).
-/

namespace WebSocket

namespace ByteOrder

/-- Unpacking reads exclusive or byte for byte. -/
theorem unpack_xor (order : ByteOrder) (left right : UInt32) :
    order.unpack (left ^^^ right) =
      ((order.unpack left).1 ^^^ (order.unpack right).1,
        (order.unpack left).2.1 ^^^ (order.unpack right).2.1,
        (order.unpack left).2.2.1 ^^^ (order.unpack right).2.2.1,
        (order.unpack left).2.2.2 ^^^ (order.unpack right).2.2.2) := by
  cases order <;> simp only [unpack, UInt32.shiftRight_xor, UInt32.toUInt8_xor]

theorem unpack_pack (order : ByteOrder) (b0 b1 b2 b3 : UInt8) :
    order.unpack (order.pack b0 b1 b2 b3) = (b0, b1, b2, b3) := by
  -- Bit for bit: of the four bytes that are combined only one reaches into the lane that is read.
  have outside (byte : UInt8) (index : Nat) (high : 8 ≤ index) :
      byte.toBitVec.getLsbD index = false := BitVec.getLsbD_of_ge _ _ high
  cases order <;> simp only [pack, unpack, Prod.mk.injEq] <;> refine ⟨?_, ?_, ?_, ?_⟩ <;>
    apply UInt8.eq_of_toBitVec_eq <;> ext i hi <;> simp [hi] <;> grind

end ByteOrder

namespace MaskKey

/-- Whole turns do not move the key. -/
theorem byteAt_add (key : MaskKey) {turned : Nat} (turns : 4 ∣ turned) (index : Nat) :
    key.byteAt (index + turned) = key.byteAt index := by
  obtain ⟨count, rfl⟩ := turns
  simp only [byteAt, Nat.add_mul_mod_self_left]

/-- Behind whole turns the key starts from its first byte. -/
theorem cover_append (key : MaskKey) {front : Bytes} (turns : 4 ∣ front.length) (back : Bytes) :
    key.cover (front ++ back) = key.cover front ++ key.cover back := by
  simp only [cover, List.mapIdx_append, byteAt_add key turns]

/-- Four bytes take one turn of the key. -/
theorem cover_four (key : MaskKey) (b0 b1 b2 b3 : UInt8) (rest : Bytes) :
    key.cover (b0 :: b1 :: b2 :: b3 :: rest) =
      [b0 ^^^ key.first, b1 ^^^ key.second, b2 ^^^ key.third, b3 ^^^ key.fourth] ++
        key.cover rest :=
  cover_append key (show 4 ∣ [b0, b1, b2, b3].length from Nat.dvd_refl 4) rest

/-- Fewer than four bytes meet the key from its first byte on. -/
theorem zipWith_toBytes (key : MaskKey) {tail : Bytes} (short : tail.length < 4) :
    List.zipWith (· ^^^ ·) tail key.toBytes = key.cover tail := by
  match tail with
  | [] | [_] | [_, _] | [_, _, _] => rfl
  | _ :: _ :: _ :: _ :: _ => simp only [List.length_cons] at short; omega

theorem apply_go_eq (key : MaskKey) (order : ByteOrder) (payload done : Bytes) :
    apply.go key order payload done = done.reverse ++ key.cover payload := by
  fun_induction apply.go key order payload done with
  | case1 done b0 b1 b2 b3 rest m0 m1 m2 m3 unpacked ih =>
    rw [word, ByteOrder.unpack_xor, ByteOrder.unpack_pack, ByteOrder.unpack_pack] at unpacked
    simp only [Prod.mk.injEq] at unpacked
    obtain ⟨rfl, rfl, rfl, rfl⟩ := unpacked
    rw [ih, cover_four]
    simp only [List.reverse_cons, List.append_assoc, List.cons_append, List.nil_append]
  | case2 tail done short =>
    have size : tail.length < 4 := by
      by_contra long
      match tail with
      | [] | [_] | [_, _] | [_, _, _] => simp at long
      | b0 :: b1 :: b2 :: b3 :: rest => exact short b0 b1 b2 b3 rest rfl
    rw [zipWith_toBytes key size, List.reverseAux_eq]

/-- Word for word or byte for byte, in either order of bytes: the masked payload is the same. -/
theorem apply_eq_cover (key : MaskKey) (order : ByteOrder) (payload : Bytes) :
    key.apply order payload = key.cover payload :=
  apply_go_eq key order payload []

@[simp] theorem length_cover (key : MaskKey) (payload : Bytes) :
    (key.cover payload).length = payload.length :=
  List.length_mapIdx

theorem cover_cover (key : MaskKey) (payload : Bytes) :
    key.cover (key.cover payload) = payload := by
  apply List.ext_getElem
  · simp only [length_cover]
  · intro index _ _
    simp only [cover, List.getElem_mapIdx, UInt8.xor_assoc, UInt8.xor_self, UInt8.xor_zero]

/-- Masking twice gives the payload back, also on words of another order. -/
theorem apply_apply (key : MaskKey) (order other : ByteOrder) (payload : Bytes) :
    key.apply order (key.apply other payload) = payload := by
  rw [apply_eq_cover, apply_eq_cover, cover_cover]

/-! ## Byte by byte and piece by piece -/

theorem getElem?_toBytes (key : MaskKey) (index : Nat) :
    key.toBytes[index % 4]? = some (key.byteAt index) := by
  have small : index % 4 < 4 := Nat.mod_lt _ (by decide)
  unfold byteAt
  generalize index % 4 = place at small
  match place with
  | 0 | 1 | 2 | 3 => rfl
  | _ + 4 => omega

theorem getElem?_cover (key : MaskKey) (payload : Bytes) (index : Nat) :
    (key.cover payload)[index]? =
      Option.map₂ (· ^^^ ·) payload[index]? key.toBytes[index % 4]? := by
  rw [cover, List.getElem?_mapIdx, getElem?_toBytes, Option.map₂_coe_right]

theorem cover_flatten_append (key : MaskKey) {pieces : List Bytes}
    (turns : ∀ piece ∈ pieces, 4 ∣ piece.length) (last : Bytes) :
    key.cover (pieces.flatten ++ last) = pieces.flatMap key.cover ++ key.cover last := by
  induction pieces with
  | nil => rfl
  | cons piece pieces ih =>
    obtain ⟨first, others⟩ := List.forall_mem_cons.mp turns
    rw [List.flatten_cons, List.flatMap_cons, List.append_assoc, cover_append key first, ih others,
      List.append_assoc]

/-- Masking on words puts each byte under the key byte for its place, whichever order the bytes of a
word have. The same key restores the payload, also on words of another order; and a payload in
pieces, each of them but the last a multiple of four bytes long, is masked piece by piece as it is
in one. -/
theorem apply_bytewise (key : MaskKey) (order : ByteOrder) (payload : Bytes) :
    (∀ index : Nat, (key.apply order payload)[index]? =
      Option.map₂ (· ^^^ ·) payload[index]? key.toBytes[index % 4]?) ∧
    (∀ other, key.apply other (key.apply order payload) = payload) ∧
    ∀ (pieces : List Bytes) (last : Bytes), (∀ piece ∈ pieces, 4 ∣ piece.length) →
      pieces.flatten ++ last = payload →
      pieces.flatMap (key.apply order) ++ key.apply order last = key.apply order payload := by
  have same : key.apply order = key.cover := funext (apply_eq_cover key order)
  refine ⟨fun index => ?_, fun other => apply_apply key other order payload, ?_⟩
  · rw [same, getElem?_cover]
  · rintro pieces last turns rfl
    rw [same, cover_flatten_append key turns]

theorem apply_bytewise_of_cut_payload :
    let key : MaskKey := ⟨0x12, 0x34, 0x56, 0x78⟩
    let pieces : List Bytes := [[1, 2, 3, 4, 5, 6, 7, 8], [], [9, 10, 11, 12]]
    (∀ piece ∈ pieces, 4 ∣ piece.length) ∧
      pieces.flatMap (key.apply .bigEndian) ++ key.apply .bigEndian [13, 14, 15] =
        key.apply .bigEndian (pieces.flatten ++ [13, 14, 15]) := by
  intro key pieces
  have turns : ∀ piece ∈ pieces, 4 ∣ piece.length := by decide
  obtain ⟨-, -, inPieces⟩ := apply_bytewise key .bigEndian (pieces.flatten ++ [13, 14, 15])
  exact ⟨turns, inPieces pieces [13, 14, 15] turns rfl⟩

end MaskKey

end WebSocket
