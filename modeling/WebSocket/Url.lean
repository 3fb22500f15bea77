import WebSocket.Url.Host
import WebSocket.Url.Path

/-! # URLs

A URL as a connection needs it: scheme, host, port, path and query. User names and fragments are
read over, because they never reach the server. The schemes of the web are forgiving: any number of
slashes or backslashes may stand before the host, and dots in the path are resolved.
-/

namespace WebSocket

structure Url where
  scheme : String
  /-- The host as it is written in a request, IPv6 addresses in brackets. -/
  host : Option String
  /-- The port when one is given that is not the usual one of the scheme. -/
  port : Option Nat
  path : String
  query : Option String
deriving DecidableEq, Repr

namespace Url

/-! ## Authority -/

/-- Reads over a user name and password, which end at the last `@` before the path. Also says
whether there were any. -/
def dropUserinfo (kind : SchemeKind) (chars : List Char) :
    Except ParseError (Bool × List Char) :=
  let (authority, rest) := chars.span fun c => !(kind.isSlash c || c = '?' || c = '#')
  match authority.reverse.span (· ≠ '@') with
  | (_, []) => .ok (false, chars)
  | (host, _ :: userinfo) =>
    if userinfo.isEmpty && host.isEmpty && !rest.isEmpty then .error .emptyHost
    else .ok (!userinfo.isEmpty && userinfo ≠ [':'], host.reverse ++ rest)

/-- The text of a host, which ends at a colon outside brackets or where the path begins. -/
def takeHost (kind : SchemeKind) (bracket : Bool) : List Char → List Char × List Char
  | [] => ([], [])
  | c :: rest =>
    if (c = ':' && !bracket) || kind.isSlash c || c = '?' || c = '#' then ([], c :: rest)
    else
      let bracket := if c = '[' then true else if c = ']' then false else bracket
      let (host, after) := takeHost kind bracket rest
      (c :: host, after)

/-- The digits of a port and what follows them. No digits are no port. -/
def takePort (chars : List Char) : Except ParseError (Option Nat × List Char) :=
  let (digits, rest) := chars.span Char.isDigit
  let port := digits.foldl (fun port digit => port * 10 + (digit.toNat - 48)) 0
  if 65535 < port then .error .invalidPort
  else if (rest.head?.map fun c => ['/', '\\', '?', '#'].contains c).getD true then
    .ok (if digits.isEmpty then none else some port, rest)
  else .error .invalidPort

/-- Host and port, and what follows them. -/
def takeAuthority (scheme : String) (chars : List Char) :
    Except ParseError (Option String × Option Nat × List Char) := do
  let kind := schemeKind scheme
  let (credentials, chars) ← dropUserinfo kind chars
  let (hostText, rest) := takeHost kind false chars
  if kind = .web && hostText.isEmpty then throw .emptyHost
  let host ← if kind = .web then Host.parse hostText else Host.parseOpaque hostText
  if host.isEmpty && (rest.head? = some ':' || credentials) then throw .emptyHost
  match rest with
  | ':' :: portText =>
    let (port, rest) ← takePort portText
    return (some host, if port = defaultPort? scheme then none else port, rest)
  | _ => return (if host.isEmpty then none else some host, none, rest)

/-! ## Path and query -/

/-- What a URL says behind its host. -/
structure Target where
  path : String
  query : Option String
  /-- Whether the path begins with a drive that takes the place of the host. -/
  drive : Bool := false

/-- Path and query; the fragment is read over. -/
def takeTarget (kind : SchemeKind) (hasRoot : Bool) (chars : List Char) : Target :=
  let (path, rest) := chars.span fun c => c ≠ '?' && c ≠ '#'
  let (path, drive) := match path with
    | c :: below => renderPath kind (if kind.isSlash c then below else c :: below)
    | [] => (if hasRoot then ['/'] else [], false)
  let query := match rest with
    | '?' :: query =>
      let set := if kind = .other then Percent.inQuerySet else Percent.inSpecialQuerySet
      some (String.ofList (Percent.encode set (withoutBreaks (query.takeWhile (· ≠ '#')))))
    | _ => none
  { path := .ofList path, query, drive }

/-! ## Whole URLs -/

/-- What stands behind the colon of a web scheme. -/
def parseWeb (scheme : String) (chars : List Char) : Except ParseError Url := do
  let (host, port, rest) ← takeAuthority scheme (chars.dropWhile (SchemeKind.web.isSlash ·))
  let { path, query, .. } := takeTarget .web true rest
  return { scheme, host, port, path, query }

/-- A URL of a file on the own machine. -/
def localFile (chars : List Char) : Url :=
  let { path, query, .. } := takeTarget .file true chars
  { scheme := "file", host := none, port := none, path, query }

/-- What follows two slashes, breaks between them read over. -/
def dropSlashes? (kind : SchemeKind) (chars : List Char) : Option (List Char) :=
  match chars.dropWhile isBreak with
  | first :: rest =>
    match rest.dropWhile isBreak with
    | second :: rest => if kind.isSlash first && kind.isSlash second then some rest else none
    | [] => none
  | [] => none

/-- What stands behind the colon of the scheme for files, breaks included, because a drive ends at
one. A host is kept unless it is the own machine or the path begins with a drive. -/
def parseFile (chars : List Char) : Except ParseError Url := do
  match dropSlashes? .file chars with
  | none => return localFile chars
  | some chars =>
    let (hostText, rest) := chars.span fun c =>
      !(SchemeKind.file.isSlash c || c = '?' || c = '#')
    let hostText := withoutBreaks hostText
    if hostText.isEmpty || isDriveLetter hostText then return localFile chars
    let host ← Host.parse hostText
    let { path, query, drive } := takeTarget .file true rest
    let host := if host = "localhost" || drive then none else some host
    return { scheme := "file", host, port := none, path, query }

/-- What stands behind the colon of any other scheme. Without two slashes there is no host, and
without any slash the path has no structure. -/
def parseOther (scheme : String) (chars : List Char) : Except ParseError Url := do
  match chars with
  | '/' :: '/' :: rest =>
    let (host, port, rest) ← takeAuthority scheme rest
    let { path, query, .. } := takeTarget .other false rest
    return { scheme, host, port, path, query }
  | '/' :: rest =>
    let { path, query, .. } := takeTarget .other false ('/' :: rest)
    return { scheme, host := none, port := none, path, query }
  | _ =>
    let (path, rest) := chars.span fun c => c ≠ '?' && c ≠ '#'
    let { query, .. } := takeTarget .other false rest
    return { scheme, host := none, port := none, query,
             path := .ofList (Percent.encode Percent.isControl path) }

/-- The text without control characters and blanks at its ends. -/
def trimmed (text : String) : List Char :=
  let isMargin := fun c : Char => c.toNat ≤ 0x20
  ((text.toList.dropWhile isMargin).reverse.dropWhile isMargin).reverse

/-- Reads a URL that stands on its own. -/
def parse (text : String) : Except ParseError Url :=
  match takeScheme (trimmed text) with
  | none => .error .relativeWithoutBase
  | some (scheme, rest) =>
    match schemeKind scheme with
    | .web => parseWeb scheme (withoutBreaks rest)
    | .file => parseFile rest
    | .other => parseOther scheme (withoutBreaks rest)

/-- The port to dial: the given one or the usual one. -/
def dialPort? (url : Url) : Option Nat :=
  url.port <|> defaultPort? url.scheme

/-- What is asked for in a request: the path, at least a slash, and the query. -/
def requestTarget (url : Url) : String :=
  let path := if url.path.isEmpty then "/" else url.path
  match url.query with
  | some query => path ++ "?" ++ query
  | none => path

end Url

end WebSocket
