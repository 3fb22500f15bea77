import WebSocket.Url.Domain.Direction
import WebSocket.Url.Domain.Label

/-! # Domain names

Brings a domain into the ASCII form in which it is looked up. Its characters are mapped and
composed, its labels read one by one, and their directions compared.
-/

namespace WebSocket.Url.Domain

open Text

/-- The ASCII characters that no domain holds. -/
def isForbidden (c : Char) : Bool :=
  c.toNat ≤ 0x20 || c.toNat = 0x7F || "%#/:<>?@[\\]^|".toList.contains c

/-- The mapped and composed form of a domain. -/
def mapped (domain : List Char) : Except ParseError (List Char) :=
  match domain.mapM map? with
  | none => .error .invalidDomain
  | some parts =>
    let chars := Composed.ofText parts.flatten
    if chars.any isForbidden then .error .invalidDomain else .ok chars

/-- The ASCII form of a domain. -/
def toAscii (domain : List Char) : Except ParseError (List Char) := do
  let labels ← ((← mapped domain).splitOn '.').mapM Label.read
  if directionsFit (labels.map (·.text)) then
    return List.intercalate ['.'] (labels.map (·.ascii))
  else throw .invalidDomain

end WebSocket.Url.Domain
