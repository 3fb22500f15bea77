import WebSocket.Text.Composed
import WebSocket.Text.Joining
import WebSocket.Url.Domain.Mapping
import WebSocket.Url.Error
import WebSocket.Url.Punycode

/-! # Labels of domains

A domain is a row of labels with dots between them. A label beyond ASCII is looked up in its ASCII
form, which is Punycode behind a mark; a label that already has the mark has to stand for one that
could have been written out. This module says which labels there are.
-/

namespace WebSocket.Url.Domain

open Text

/-- The joiner that keeps two letters apart. -/
def nonJoiner : Char := '\u200C'

/-- The joiner that brings two letters together. -/
def joiner : Char := '\u200D'

/-- Whether the next letter that is not passed over is of one of the given kinds. -/
def meets (kinds : List JoiningType) (chars : List Char) : Bool :=
  (chars.dropWhile (JoiningType.ofChar · = .transparent)).head?.any fun c =>
    kinds.contains (JoiningType.ofChar c)

/-- Whether a joiner is in place, given what stands before it, last character first, and what stands
behind it. Either joiner may follow the sign that takes the vowel from a letter, whose combining
class is nine; one that keeps letters apart may also stand between letters that would join. -/
def joinerFits (c : Char) (before rest : List Char) : Bool :=
  match before with
  | [] => false
  | last :: _ =>
    combiningClass last = 9
      || (c = nonJoiner && meets [.both, .left] before && meets [.both, .right] rest)

/-- Whether all joiners of a label are in place. `before` holds what has been read of it. -/
def joinersFit (before : List Char) : List Char → Bool
  | [] => true
  | c :: rest =>
    ((c ≠ nonJoiner && c ≠ joiner) || joinerFits c before rest) && joinersFit (c :: before) rest

def isAsciiText (chars : List Char) : Bool :=
  chars.all (·.toNat < 0x80)

/-- Whether mapped and composed text can be a label: it does not begin with a mark, its joiners are
in place, and it is not too long to be encoded. -/
def isLabelText (text : List Char) : Bool :=
  !text.head?.any isMark && joinersFit [] text && (isAsciiText text || text.length ≤ 1000)

/-- A label as it is looked up, and the text that it stands for. -/
structure Label where
  ascii : List Char
  text : List Char
deriving DecidableEq, Repr

/-- The mark that goes before Punycode. -/
def encodedMark : List Char := "xn--".toList

/-- The label that an ASCII form stands for, whose part behind the mark is given. -/
def Label.decode (encoded : List Char) : Except ParseError Label :=
  if encoded.isEmpty || encoded.getLast? = some '-' || 2000 < encoded.length then
    .error .invalidDomain
  else
    match Punycode.decode? encoded with
    | some text =>
      if text.all isKept && Composed.ofText text = text && isLabelText text then
        .ok { ascii := encodedMark ++ encoded, text }
      else .error .invalidDomain
    | none => .error .invalidDomain

/-- Reads a label of a mapped and composed domain. -/
def Label.read (chars : List Char) : Except ParseError Label :=
  if encodedMark.isPrefixOf chars then Label.decode (chars.drop encodedMark.length)
  else if !isLabelText chars then .error .invalidDomain
  else if isAsciiText chars then .ok { ascii := chars, text := chars }
  else .ok { ascii := encodedMark ++ Punycode.encode chars, text := chars }

end WebSocket.Url.Domain
