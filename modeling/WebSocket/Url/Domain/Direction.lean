import WebSocket.Text.Bidi

/-! # Domains that run to the left

Where a domain holds letters of a script that runs to the left, its labels must not mix directions,
or else two domains could look the same. Every label then keeps to one direction, begins with a
letter of it and ends with a letter or a number.
-/

namespace WebSocket.Url.Domain

open Text

/-- Whether a character makes the whole domain one that runs to the left. -/
def runsLeft (c : Char) : Bool :=
  [.rightToLeft, .arabicLetter, .arabicNumber].contains (BidiClass.ofChar c)

/-- What may stand in a label of either direction. -/
def neutralClasses : List BidiClass :=
  [.europeanNumber, .europeanSeparator, .commonSeparator, .europeanTerminator, .otherNeutral,
    .boundaryNeutral, .nonspacingMark]

/-- Whether a label keeps to one direction. Marks at its end do not count, and the two kinds of
digits do not go together. -/
def keepsDirection (label : List Char) : Bool :=
  match label.map BidiClass.ofChar with
  | [] => true
  | first :: rest =>
    let kept := rest.reverse.dropWhile (· = .nonspacingMark)
    let holds (ends inner : List BidiClass) :=
      match kept with
      | [] => true
      | last :: middle => ends.contains last && middle.all inner.contains
    if first = .leftToRight then
      holds [.leftToRight, .europeanNumber] (.leftToRight :: neutralClasses)
    else if first = .rightToLeft || first = .arabicLetter then
      holds [.rightToLeft, .arabicLetter, .europeanNumber, .arabicNumber]
          ([.rightToLeft, .arabicLetter, .arabicNumber] ++ neutralClasses)
        && !(kept.contains .europeanNumber && kept.contains .arabicNumber)
    else false

/-- Whether the labels of one domain go together. -/
def directionsFit (labels : List (List Char)) : Bool :=
  !labels.any (·.any runsLeft) || labels.all keepsDirection

end WebSocket.Url.Domain
