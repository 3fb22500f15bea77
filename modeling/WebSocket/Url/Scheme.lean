/-! # Schemes

The scheme at the head of a URL decides how the rest is read: the schemes of the web, the scheme of
files, or any other. Tabs and line ends are read over, wherever they stand.
-/

namespace WebSocket.Url

/-- The usual port of a scheme. -/
def defaultPort? (scheme : String) : Option Nat :=
  if scheme = "http" || scheme = "ws" then some 80
  else if scheme = "https" || scheme = "wss" then some 443
  else if scheme = "ftp" then some 21
  else none

/-- How the rest of a URL is to be read. -/
inductive SchemeKind where
  | web
  | file
  | other
deriving DecidableEq

def schemeKind (scheme : String) : SchemeKind :=
  if scheme = "file" then .file
  else if (defaultPort? scheme).isSome then .web
  else .other

/-- Backslashes count as slashes where files and the web are concerned. -/
def SchemeKind.isSlash (kind : SchemeKind) (c : Char) : Bool :=
  c = '/' || (kind ≠ .other && c = '\\')

def isSchemeChar (c : Char) : Bool :=
  c.isAlphanum || c = '+' || c = '-' || c = '.'

/-- Tabs and line ends, which are read over wherever they stand. -/
def isBreak (c : Char) : Bool :=
  c = '\t' || c = '\n' || c = '\r'

def withoutBreaks (chars : List Char) : List Char :=
  chars.filter (!isBreak ·)

/-- The scheme in small letters, and what stands behind its colon, breaks included. -/
def takeScheme (chars : List Char) : Option (String × List Char) :=
  let (scheme, rest) := chars.span fun c => isSchemeChar c || isBreak c
  match withoutBreaks scheme, rest with
  | first :: scheme, ':' :: rest =>
    if first.isAlpha then some (.ofList ((first :: scheme).map Char.toLower), rest) else none
  | _, _ => none

end WebSocket.Url
