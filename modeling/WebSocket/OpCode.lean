/-! # Operation codes

The low four bits of a frame's first byte say what the frame is. Six of the sixteen values are in
use, the others are refused.
-/

namespace WebSocket

/-- What a frame is. -/
inductive OpCode where
  | continuation
  | text
  | binary
  | close
  | ping
  | pong
deriving DecidableEq, Repr

namespace OpCode

/-- Control frames cannot be fragmented and carry at most 125 bytes. -/
def isControl : OpCode → Bool
  | close | ping | pong => true
  | continuation | text | binary => false

/-- The code that a number stands for, when it stands for one. -/
def ofUInt8? (value : UInt8) : Option OpCode :=
  match value with
  | 0x0 => some continuation
  | 0x1 => some text
  | 0x2 => some binary
  | 0x8 => some close
  | 0x9 => some ping
  | 0xA => some pong
  | _ => none

def toUInt8 : OpCode → UInt8
  | continuation => 0x0
  | text => 0x1
  | binary => 0x2
  | close => 0x8
  | ping => 0x9
  | pong => 0xA

@[simp] theorem ofUInt8?_toUInt8 (opcode : OpCode) : ofUInt8? opcode.toUInt8 = some opcode := by
  cases opcode <;> rfl

theorem toUInt8_of_ofUInt8? {value : UInt8} {opcode : OpCode}
    (known : ofUInt8? value = some opcode) : opcode.toUInt8 = value := by
  unfold ofUInt8? at known
  split at known <;> simp_all only [Option.some.injEq, reduceCtorEq] <;> subst known <;> rfl

/-- The name under which error texts mention the code. -/
def name : OpCode → String
  | continuation => "Continuation"
  | text => "Text"
  | binary => "Binary"
  | close => "Close"
  | ping => "Ping"
  | pong => "Pong"

end OpCode

end WebSocket
