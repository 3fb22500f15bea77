import WebSocket.Text.Base64

/-! # Base64 loses nothing

What was encoded is decoded again (`decode?_encode`), and its length is known from the number of
bytes (`length_encode`).
-/

namespace WebSocket.Text.Base64

/-! ## Digits -/

/-- No digit is taken for padding. -/
theorem digit_ne_padding {value : Nat} (small : value < 64) : digit value ≠ '=' := by
  intro padding
  have read := value?_digit small
  rw [padding] at read
  exact absurd read.symm (Option.some_ne_none value)

/-- A byte is read back from any number that ends in it. -/
theorem ofNat_eq_of_mod {number : Nat} {byte : UInt8} (ends : number % 256 = byte.toNat) :
    UInt8.ofNat number = byte := by
  rw [← UInt8.toNat_inj, UInt8.toNat_ofNat']
  exact ends

/-! ## Groups of four digits -/

theorem decodeChars?_one (a : UInt8) : decodeChars? (encodeChars [a]) = some [a] := by
  have := a.toNat_lt
  have first := value?_digit (show a.toNat * 16 / 64 < 64 by omega)
  have second := value?_digit (show a.toNat * 16 % 64 < 64 by omega)
  have whole : a.toNat * 16 / 64 * 64 + a.toNat * 16 % 64 = a.toNat * 16 := by omega
  simp [encodeChars, decodeChars?, first, second, whole]

theorem decodeChars?_two (a b : UInt8) : decodeChars? (encodeChars [a, b]) = some [a, b] := by
  have := a.toNat_lt
  have := b.toNat_lt
  let bits := (a.toNat * 256 + b.toNat) * 4
  have written : encodeChars [a, b] =
      [digit (bits / 4096), digit (bits / 64 % 64), digit (bits % 64), '='] := rfl
  have first := value?_digit (show bits / 4096 < 64 by omega)
  have second := value?_digit (show bits / 64 % 64 < 64 by omega)
  have third := value?_digit (show bits % 64 < 64 by omega)
  have solid := digit_ne_padding (show bits % 64 < 64 by omega)
  have whole : (bits / 4096 * 64 + bits / 64 % 64) * 64 + bits % 64 = bits := by omega
  have even : bits % 4 = 0 := by omega
  have high : UInt8.ofNat (bits / 1024) = a := ofNat_eq_of_mod (by omega)
  have low : UInt8.ofNat (bits / 4) = b := ofNat_eq_of_mod (by omega)
  rw [written, decodeChars?.eq_3 _ _ _ solid, first, second, third]
  simp [whole, even, high, low]

theorem decodeChars?_three (a b c : UInt8) (rest : Bytes) :
    decodeChars? (encodeChars (a :: b :: c :: rest)) =
      (decodeChars? (encodeChars rest)).map (a :: b :: c :: ·) := by
  have := a.toNat_lt
  have := b.toNat_lt
  have := c.toNat_lt
  let bits := (a.toNat * 256 + b.toNat) * 256 + c.toNat
  have written : encodeChars (a :: b :: c :: rest) = digit (bits / 262144) ::
      digit (bits / 4096 % 64) :: digit (bits / 64 % 64) :: digit (bits % 64) ::
        encodeChars rest := rfl
  have first := value?_digit (show bits / 262144 < 64 by omega)
  have second := value?_digit (show bits / 4096 % 64 < 64 by omega)
  have third := value?_digit (show bits / 64 % 64 < 64 by omega)
  have fourth := value?_digit (show bits % 64 < 64 by omega)
  have solid := digit_ne_padding (show bits % 64 < 64 by omega)
  have whole : ((bits / 262144 * 64 + bits / 4096 % 64) * 64 + bits / 64 % 64) * 64 + bits % 64 =
      bits := by
    omega
  have high : UInt8.ofNat (bits / 65536) = a := ofNat_eq_of_mod (by omega)
  have middle : UInt8.ofNat (bits / 256) = b := ofNat_eq_of_mod (by omega)
  have low : UInt8.ofNat bits = c := ofNat_eq_of_mod (by omega)
  rw [written, decodeChars?.eq_4 _ _ _ _ _ (fun _ padding _ => solid padding)
    (fun padding _ => solid padding), first, second, third, fourth]
  simp only [Option.bind_eq_bind, Option.bind_some, whole, high, middle, low]
  cases decodeChars? (encodeChars rest) <;> rfl

/-! ## Whole texts -/

theorem decodeChars?_encodeChars (bytes : Bytes) :
    decodeChars? (encodeChars bytes) = some bytes := by
  induction bytes using encodeChars.induct with
  | case1 => rfl
  | case2 a => exact decodeChars?_one a
  | case3 a b => exact decodeChars?_two a b
  | case4 a b c rest ih => rw [decodeChars?_three, ih, Option.map_some]

/-- What was encoded is decoded again. -/
theorem decode?_encode (bytes : Bytes) : decode? (encode bytes) = some bytes := by
  rw [decode?, encode, String.toList_ofList, decodeChars?_encodeChars]

/-- Every three bytes that were begun are four characters. -/
theorem length_encode (bytes : Bytes) :
    (encode bytes).length = 4 * ((bytes.length + 2) / 3) := by
  rw [encode, ← String.length_toList, String.toList_ofList]
  induction bytes using encodeChars.induct with
  | case1 => rfl
  | case2 a => simp [encodeChars]
  | case3 a b => simp [encodeChars]
  | case4 a b c rest ih =>
    simp only [encodeChars, List.length_cons, ih]
    omega

end WebSocket.Text.Base64
