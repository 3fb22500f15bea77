import WebSocket.Url.Percent
import WebSocket.Url.Scheme

/-! # Paths

A path is a row of segments with slashes between them. Segments of dots lead up or nowhere, and are
resolved while the path is read. Segments that name a drive are never left again, whatever the
scheme; in the path of a file the first one even takes the place of the host.
-/

namespace WebSocket.Url

/-! ## Segments -/

/-- Whether a path segment means its own directory, the dot being written out or escaped. -/
def isSingleDot (segment : List Char) : Bool :=
  [".", "%2e"].contains (String.ofList (segment.map Char.toLower))

/-- Whether a path segment means the directory above. -/
def isDoubleDot (segment : List Char) : Bool :=
  ["..", ".%2e", "%2e.", "%2e%2e"].contains (String.ofList (segment.map Char.toLower))

/-- A letter with a colon or a bar, the name of a drive. -/
def isDriveLetter : List Char → Bool
  | [letter, mark] => letter.isAlpha && (mark = ':' || mark = '|')
  | _ => false

/-- Whether a segment is a drive, or begins with one before a backslash that is no slash. -/
def beginsAtDrive : List Char → Bool
  | letter :: mark :: rest =>
    isDriveLetter [letter, mark] && (rest.isEmpty || rest.head? = some '\\')
  | _ => false

/-- The name of a drive and what follows it, where a break right behind the colon parts the two. -/
def partAtBreak? (segment : List Char) : Option (List Char × List Char) :=
  match segment.dropWhile isBreak with
  | letter :: rest =>
    match rest.dropWhile isBreak with
    | ':' :: mark :: rest =>
      let name := withoutBreaks rest
      if letter.isAlpha && isBreak mark && !name.isEmpty then some ([letter, ':'], name) else none
    | _ => none
  | [] => none

/-! ## Following a path -/

/-- A path on the way to its end: the segments so far, last one first, and whether the first of them
is a drive that takes the place of a host. -/
structure Walk where
  above : List (List Char) := []
  drive : Bool := false

/-- Goes one directory up, but never out of a drive. -/
def Walk.up (walk : Walk) : Walk :=
  match walk.above with
  | [] => walk
  | segment :: rest => if beginsAtDrive segment then walk else { walk with above := rest }

def Walk.enter (walk : Walk) (segment : List Char) : Walk :=
  { walk with above := segment :: walk.above }

/-- Follows the segments of a path with dots resolved. A path that ends in dots ends in a slash. -/
def Walk.follow (kind : SchemeKind) (walk : Walk) : List (List Char) → Walk
  | [] => walk
  | segment :: rest =>
    let encoded := Percent.encode Percent.inPathSet (withoutBreaks segment)
    let atDrive := kind = .file && walk.above.isEmpty
    let next :=
      if isDoubleDot encoded then
        if rest.isEmpty then walk.up.enter [] else walk.up
      else if isSingleDot encoded then
        if rest.isEmpty then walk.enter [] else walk
      else if atDrive && isDriveLetter encoded then
        { above := [encoded.take 1 ++ [':']], drive := true }
      else
        match if atDrive then partAtBreak? segment else none with
        | some (drive, name) =>
          (walk.enter drive).enter (Percent.encode Percent.inPathSet name)
        | none => walk.enter encoded
    next.follow kind rest

/-- The segments between slashes. -/
def segments (kind : SchemeKind) (path : List Char) : List (List Char) :=
  (path.map fun c => if kind.isSlash c then '/' else c).splitOn '/'

/-- A path from the root, its first slash left out, and whether a drive takes the place of its host.
The path of a file begins with a single slash. -/
def renderPath (kind : SchemeKind) (path : List Char) : List Char × Bool :=
  let walk := Walk.follow kind {} (segments kind path)
  let resolved := walk.above.reverse
  let resolved :=
    if kind = .file then
      match resolved.dropWhile List.isEmpty with
      | [] => [[]]
      | kept => kept
    else resolved
  ('/' :: List.intercalate ['/'] resolved, walk.drive)

end WebSocket.Url
