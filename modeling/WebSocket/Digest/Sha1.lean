import WebSocket.Bytes

/-! # SHA-1

The digest of 160 bits by which a server proves that it read the key of a request. The message is
padded to blocks of 64 bytes; every block is stretched to 80 words and stirred into the state.
-/

namespace WebSocket.Digest.Sha1

/-- The five words of the state. -/
structure State where
  a : UInt32
  b : UInt32
  c : UInt32
  d : UInt32
  e : UInt32

/-- The state before the first block. -/
def initial : State := ⟨0x67452301, 0xEFCDAB89, 0x98BADCFE, 0x10325476, 0xC3D2E1F0⟩

def rotateLeft (word : UInt32) (count : UInt32) : UInt32 :=
  (word <<< count) ||| (word >>> (32 - count))

/-- The message, a single one bit, zeros up to eight bytes before a block ends, and the length in
bits. -/
def padded (message : Bytes) : Bytes :=
  message ++ 0x80 :: (List.replicate ((119 - message.length % 64) % 64) 0 ++
    Bytes.writeBe 8 (message.length * 8))

/-- The big-endian words of the bytes. -/
def words : Bytes → List UInt32
  | b0 :: b1 :: b2 :: b3 :: rest => .ofNat (Bytes.readBe [b0, b1, b2, b3]) :: words rest
  | _ => []

/-- Adds `count` words to the schedule, which is kept last word first. Each new word mixes the words
three, eight, fourteen and sixteen places before it. -/
def stretch : Nat → List UInt32 → List UInt32
  | 0, schedule => schedule
  | count + 1, schedule =>
    let mixed := schedule.getD 2 0 ^^^ schedule.getD 7 0 ^^^ schedule.getD 13 0
      ^^^ schedule.getD 15 0
    stretch count (rotateLeft mixed 1 :: schedule)

/-- One of the 80 rounds. -/
def round (state : State) (index : Nat) (word : UInt32) : State :=
  let (mix, constant) : UInt32 × UInt32 :=
    if index < 20 then ((state.b &&& state.c) ||| (~~~state.b &&& state.d), 0x5A827999)
    else if index < 40 then (state.b ^^^ state.c ^^^ state.d, 0x6ED9EBA1)
    else if index < 60 then
      ((state.b &&& state.c) ||| (state.b &&& state.d) ||| (state.c &&& state.d), 0x8F1BBCDC)
    else (state.b ^^^ state.c ^^^ state.d, 0xCA62C1D6)
  ⟨rotateLeft state.a 5 + mix + state.e + constant + word, state.a, rotateLeft state.b 30, state.c,
    state.d⟩

/-- Stirs one block into the state. -/
def absorb (state : State) (block : Bytes) : State :=
  let schedule := (stretch 64 (words block).reverse).reverse
  let stirred := schedule.zipIdx.foldl (fun state (word, index) => round state index word) state
  ⟨state.a + stirred.a, state.b + stirred.b, state.c + stirred.c, state.d + stirred.d,
    state.e + stirred.e⟩

/-- Stirs in the blocks of a message whose length is a multiple of 64. -/
def absorbAll (state : State) (message : Bytes) : State :=
  match split : message.cut? 64 with
  | none => state
  | some (block, rest) =>
    have : rest.length < message.length := by
      obtain ⟨size, whole⟩ := Bytes.cut?_eq_some_iff.mp split
      have := congrArg List.length whole
      simp at this
      omega
    absorbAll (absorb state block) rest
termination_by message.length

def digest (message : Bytes) : Bytes :=
  let state := absorbAll initial (padded message)
  [state.a, state.b, state.c, state.d, state.e].flatMap fun word => Bytes.writeBe 4 word.toNat

end WebSocket.Digest.Sha1
