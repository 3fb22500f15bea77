/-! # Blank characters

The characters with the Unicode property White_Space, and texts trimmed of them.
-/

namespace WebSocket.Text

/-- The code point ranges of White_Space, both ends included. -/
def blankRanges : List (Nat × Nat) :=
  [(0x9, 0xD), (0x20, 0x20), (0x85, 0x85), (0xA0, 0xA0), (0x1680, 0x1680), (0x2000, 0x200A),
    (0x2028, 0x2029), (0x202F, 0x202F), (0x205F, 0x205F), (0x3000, 0x3000)]

def isBlank (c : Char) : Bool :=
  blankRanges.any fun (low, high) => low ≤ c.toNat && c.toNat ≤ high

/-- The text without its trailing blanks. -/
def trimEnd (chars : List Char) : List Char :=
  (chars.reverse.dropWhile isBlank).reverse

/-- The text without blanks at either end. -/
def trim (chars : List Char) : List Char :=
  trimEnd (chars.dropWhile isBlank)

/-- Whether nothing but blanks is there. -/
def isBlankText (text : String) : Bool :=
  text.toList.all isBlank

end WebSocket.Text
