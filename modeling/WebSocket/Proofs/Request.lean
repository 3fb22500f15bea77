import WebSocket.Proofs.Http.Lines
import WebSocket.Proofs.Options
import WebSocket.Proofs.Text
import WebSocket.Upgrade

/-! # The lines of the request

The request that is composed from options has the lines that it is meant to have (`requestLines`)
exactly when neither the origin nor a subprotocol holds an end of a line, and then its one empty
line is its end (`lines_compose`). Names and values of headers cannot break a line, because their
types hold the check. Origin and subprotocols are free texts, and validation does not look for ends
of lines in them.
-/

namespace WebSocket

open Http (crlf linesOf headLength? written)

/-! ## Texts that keep a line -/

/-- A text keeps a line when none of its characters ends one. -/
theorem Bytes.keepsLine_of_chars {text : String}
    (chars : ∀ c ∈ text.toList, c ≠ '\r' ∧ c ≠ '\n') : Http.KeepsLine (ofString text) := by
  intro byte member
  obtain ⟨c, inText, source⟩ := exists_of_mem_ofString member
  obtain ⟨noReturn, noFeed⟩ := chars c inText
  rw [Http.isLineEnd, Bool.or_eq_false_iff, decide_eq_false_iff_not, decide_eq_false_iff_not]
  exact ⟨ne_ofNat_of_ne source (by decide) noReturn, ne_ofNat_of_ne source (by decide) noFeed⟩

theorem keepsLine_number (number : Nat) : Http.KeepsLine (Bytes.ofString (toString number)) := by
  refine Bytes.keepsLine_of_chars fun c member => ?_
  rw [Nat.toString_eq_repr, Nat.toList_repr] at member
  have digit : c.isDigit = true := Nat.isDigit_of_mem_toDigits (by decide) (by decide) member
  constructor
  all_goals
    rintro rfl
    cases digit

theorem keepsLine_encode (bytes : Bytes) :
    Http.KeepsLine (Bytes.ofString (Text.Base64.encode bytes)) := by
  refine Bytes.keepsLine_of_chars fun c member => ?_
  rw [Text.Base64.encode, String.toList_ofList] at member
  have padding : '=' ≠ '\r' ∧ '=' ≠ '\n' := by decide
  have digits : ∀ value < 64,
      Text.Base64.digit value ≠ '\r' ∧ Text.Base64.digit value ≠ '\n' := by decide
  exact Text.Base64.mem_encodeChars (P := fun c => c ≠ '\r' ∧ c ≠ '\n') padding digits member

theorem Http.HeaderName.keepsLine (name : Http.HeaderName) : Http.KeepsLine name.bytes :=
  Http.keepsLine_of_class rfl rfl name.isToken

theorem Http.HeaderValue.keepsLine (value : Http.HeaderValue) : Http.KeepsLine value.bytes :=
  Http.keepsLine_of_class rfl rfl value.isLine

/-- What is sent of the URL keeps a line. -/
structure Url.KeepsLine (url : Url) : Prop where
  host : ∀ host ∈ url.host, Http.KeepsLine (Bytes.ofString host)
  path : Http.KeepsLine (Bytes.ofString url.path)
  query : ∀ query ∈ url.query, Http.KeepsLine (Bytes.ofString query)

theorem Url.KeepsLine.requestTarget {url : Url} (keeps : url.KeepsLine) :
    Http.KeepsLine (Bytes.ofString url.requestTarget) := by
  have path : Http.KeepsLine (Bytes.ofString (if url.path.isEmpty then "/" else url.path)) := by
    split
    · decide
    · exact keeps.path
  unfold Url.requestTarget
  cases given : url.query with
  | none => exact path
  | some query =>
    simp only [Bytes.ofString_append, Http.keepsLine_append]
    exact ⟨⟨path, by decide⟩, keeps.query query given⟩

namespace UpgradeRequest

/-! ## The lines of a request -/

/-- A header line without its end. -/
def fieldLine (field : Bytes × Bytes) : Bytes :=
  field.1 ++ Bytes.ofString ": " ++ field.2

def hostLine (url : Url) (host : String) : Bytes :=
  Bytes.ofString ("Host: " ++ (host ++ (url.port.map fun port => ":" ++ toString port).getD ""))

def headerLines (headers : Http.Headers) : List Bytes :=
  headers.toList.map fun (name, value) => name.bytes ++ Bytes.ofString ": " ++ value.bytes

def originLines (origin : Option String) : List Bytes :=
  (origin.map fun origin => Bytes.ofString ("Origin: " ++ origin)).toList

def subprotocolLines (subprotocols : List String) : List Bytes :=
  if subprotocols.isEmpty then []
  else [Bytes.ofString ("Sec-WebSocket-Protocol: " ++ String.intercalate ", " subprotocols)]

/-- The lines that a request is meant to have. -/
def requestLines (url : Url) (host : String) (options : Options) (key : String) : List Bytes :=
  [Bytes.ofString ("GET " ++ url.requestTarget ++ " HTTP/1.1"), hostLine url host,
    Bytes.ofString "Upgrade: websocket", Bytes.ofString "Connection: Upgrade"]
  ++ headerLines options.headers
  ++ originLines options.origin
  ++ [Bytes.ofString ("Sec-WebSocket-Key: " ++ key)]
  ++ subprotocolLines options.subprotocols
  ++ [Bytes.ofString "Sec-WebSocket-Version: 13"]

variable {url : Url} {host key : String} {options : Options} {nonce : Bytes}
  {request : UpgradeRequest}

theorem fieldLine_ofString (name value : String) :
    fieldLine (Bytes.ofString name, Bytes.ofString value) =
      Bytes.ofString (name ++ ": " ++ value) := by
  rw [fieldLine, Bytes.ofString_append, Bytes.ofString_append]

theorem map_fieldLine_origin (origin : Option String) :
    (origin.map fun origin => (Bytes.ofString "Origin", Bytes.ofString origin)).toList.map
      fieldLine = originLines origin := by
  cases origin with
  | none => rfl
  | some origin =>
    rw [Option.map_some, Option.toList_some, List.map_singleton, fieldLine_ofString]
    rfl

theorem map_fieldLine_subprotocols (subprotocols : List String) :
    (if subprotocols.isEmpty then []
      else [(Bytes.ofString "Sec-WebSocket-Protocol",
        Bytes.ofString (String.intercalate ", " subprotocols))]).map fieldLine =
      subprotocolLines subprotocols := by
  unfold subprotocolLines
  split
  · rfl
  · rw [List.map_singleton, fieldLine_ofString]
    rfl

/-- A request is written line by line. -/
theorem bytes_eq_written (request : UpgradeRequest) :
    request.bytes = written
      (Bytes.ofString ("GET " ++ request.target ++ " HTTP/1.1") ::
        request.fields.map fieldLine) := by
  have colon : Bytes.ofString ": " = [0x3A, 0x20] := by decide
  have same : line = fun field => fieldLine field ++ crlf := by
    funext field
    rw [line, fieldLine, colon]
  rw [written, List.flatMap_cons, List.flatMap_map, bytes, same]

/-- A request for a URL with a host is composed, and the lines that it is meant to have are
written. -/
theorem exists_compose (named : url.host = some host) (options : Options) (nonce : Bytes) :
    ∃ request,
      compose url options.origin options.headers options.subprotocols nonce = .ok request ∧
        request.key = Text.Base64.encode nonce ∧
        request.bytes = written (requestLines url host options request.key) := by
  unfold compose
  rw [named]
  refine ⟨_, rfl, rfl, ?_⟩
  rw [bytes_eq_written]
  simp only [requestLines, List.map_append, List.map_cons, List.map_nil, List.map_map,
    map_fieldLine_origin, map_fieldLine_subprotocols, fieldLine_ofString]
  rfl

theorem ne_nil_of_mem_requestLines {line : Bytes}
    (member : line ∈ requestLines url host options key) : line ≠ [] := by
  rintro rfl
  simp [requestLines, hostLine, headerLines, originLines, subprotocolLines,
    Bytes.ofString_eq_nil_iff] at member

/-! ## What breaks a line -/

theorem keepsLine_startLine (keeps : url.KeepsLine) :
    Http.KeepsLine (Bytes.ofString ("GET " ++ url.requestTarget ++ " HTTP/1.1")) := by
  simp only [Bytes.ofString_append, Http.keepsLine_append]
  exact ⟨⟨by decide, keeps.requestTarget⟩, by decide⟩

theorem keepsLine_hostLine (keeps : url.KeepsLine) (named : url.host = some host) :
    Http.KeepsLine (hostLine url host) := by
  have port : Http.KeepsLine
      (Bytes.ofString ((url.port.map fun port => ":" ++ toString port).getD "")) := by
    cases url.port with
    | none => decide
    | some port =>
      rw [Option.map_some, Option.getD_some, Bytes.ofString_append, Http.keepsLine_append]
      exact ⟨by decide, keepsLine_number port⟩
  simp only [hostLine, Bytes.ofString_append, Http.keepsLine_append] at port ⊢
  exact ⟨by decide, keeps.host host named, port⟩

theorem keepsLine_headerLines (headers : Http.Headers) :
    ∀ line ∈ headerLines headers, Http.KeepsLine line := by
  intro line member
  obtain ⟨⟨name, value⟩, -, rfl⟩ := List.mem_map.mp member
  simp only [Http.keepsLine_append]
  exact ⟨⟨name.keepsLine, by decide⟩, value.keepsLine⟩

theorem keepsLine_keyLine (nonce : Bytes) :
    Http.KeepsLine (Bytes.ofString ("Sec-WebSocket-Key: " ++ Text.Base64.encode nonce)) := by
  rw [Bytes.ofString_append, Http.keepsLine_append]
  exact ⟨by decide, keepsLine_encode nonce⟩

/-- An origin breaks its line exactly when it holds an end of a line. -/
theorem forall_originLines_iff (origin : Option String) :
    (∀ line ∈ originLines origin, ¬ crlf <:+: line) ↔
      ∀ text ∈ origin.toList, ¬ crlf <:+: Bytes.ofString text := by
  have begins : Http.KeepsLine (Bytes.ofString "Origin: ") := by decide
  cases origin <;> simp [originLines, Bytes.ofString_append, begins.isInfix_append_iff]

theorem isInfix_intercalate_iff (names : List String) :
    crlf <:+: Bytes.ofString (String.intercalate ", " names) ↔
      ∃ name ∈ names, crlf <:+: Bytes.ofString name := by
  have comma : Http.KeepsLine (Bytes.ofString ", ") := by decide
  have nonempty : Bytes.ofString ", " ≠ [] := by decide
  induction names with
  | nil => decide
  | cons name others ih =>
    cases others with
    | nil => simp
    | cons next others =>
      rw [String.intercalate_cons_cons, Bytes.ofString_append, Bytes.ofString_append,
        comma.isInfix_between_iff nonempty, List.exists_mem_cons_iff]
      exact or_congr_right ih

/-- Subprotocols break their line exactly when one of them holds an end of a line. -/
theorem forall_subprotocolLines_iff (subprotocols : List String) :
    (∀ line ∈ subprotocolLines subprotocols, ¬ crlf <:+: line) ↔
      ∀ text ∈ subprotocols, ¬ crlf <:+: Bytes.ofString text := by
  have begins : Http.KeepsLine (Bytes.ofString "Sec-WebSocket-Protocol: ") := by decide
  unfold subprotocolLines
  split
  · next none => simp [List.isEmpty_iff.mp none]
  · simp [Bytes.ofString_append, begins.isInfix_append_iff, isInfix_intercalate_iff]

/-- What is configured as free text. -/
def freeTexts (options : Options) : List String :=
  options.origin.toList ++ options.subprotocols

/-- Only free texts can break a line. -/
theorem forall_requestLines_iff (keeps : url.KeepsLine) (named : url.host = some host)
    (nonce : Bytes) :
    (∀ line ∈ requestLines url host options (Text.Base64.encode nonce), ¬ crlf <:+: line) ↔
      ∀ text ∈ freeTexts options, ¬ crlf <:+: Bytes.ofString text := by
  have headers : ∀ line ∈ headerLines options.headers, ¬ crlf <:+: line :=
    fun line member => (keepsLine_headerLines options.headers line member).not_isInfix
  have fixed : ¬ crlf <:+: Bytes.ofString "Upgrade: websocket" ∧
      ¬ crlf <:+: Bytes.ofString "Connection: Upgrade" ∧
      ¬ crlf <:+: Bytes.ofString "Sec-WebSocket-Version: 13" := by
    decide
  simp only [requestLines, freeTexts, List.forall_mem_append, List.forall_mem_cons,
    (keepsLine_startLine keeps).not_isInfix, (keepsLine_hostLine keeps named).not_isInfix,
    (keepsLine_keyLine nonce).not_isInfix, fixed, forall_originLines_iff,
    forall_subprotocolLines_iff, not_false_eq_true, true_and, and_true, List.not_mem_nil,
    false_implies, implies_true]
  exact ⟨fun ⟨⟨_, origin⟩, offer⟩ => ⟨origin, offer⟩,
    fun ⟨origin, offer⟩ => ⟨⟨headers, origin⟩, offer⟩⟩

/-- A request in which no free text holds an end of a line ends with its first empty line. -/
theorem headLength?_of_compose (keeps : url.KeepsLine)
    (free : ∀ text ∈ freeTexts options, ¬ crlf <:+: Bytes.ofString text) {nonce : Bytes}
    {request : UpgradeRequest}
    (composed : compose url options.origin options.headers options.subprotocols nonce =
      .ok request) :
    headLength? request.bytes = some request.bytes.length := by
  cases named : url.host with
  | none =>
    unfold compose at composed
    rw [named] at composed
    cases composed
  | some host =>
    obtain ⟨same, composes, key, whole⟩ := exists_compose named options nonce
    cases composes.symm.trans composed
    rw [whole, key]
    exact Http.headLength?_written (List.cons_ne_nil _ _) fun line member =>
      ⟨ne_nil_of_mem_requestLines member,
        (forall_requestLines_iff keeps named nonce).mpr free line member⟩

/-- A request for a URL with a host is composed. It is read as the lines that it is meant to have
exactly when no free text holds an end of a line, and then it ends with its first empty line. -/
theorem lines_compose (keeps : url.KeepsLine) (named : url.host = some host) (options : Options)
    (nonce : Bytes) :
    ∃ request,
      compose url options.origin options.headers options.subprotocols nonce = .ok request ∧
        (linesOf request.bytes = requestLines url host options request.key ++ [[], []] ↔
          ∀ text ∈ freeTexts options, ¬ crlf <:+: Bytes.ofString text) ∧
        ((∀ text ∈ freeTexts options, ¬ crlf <:+: Bytes.ofString text) →
          headLength? request.bytes = some request.bytes.length) := by
  obtain ⟨request, composed, key, whole⟩ := exists_compose named options nonce
  have lines := @forall_requestLines_iff url host options keeps named nonce
  rw [← key] at lines
  refine ⟨request, composed, ?_, fun free => headLength?_of_compose keeps free composed⟩
  rw [whole, Http.linesOf_written_iff, lines]

/-! ## Validated options -/

def chatUrl : Url where
  scheme := "ws"
  host := some "example.com"
  port := some 8080
  path := "/chat"
  query := some "room=1"

theorem keepsLine_chatUrl : chatUrl.KeepsLine where
  host := by
    rintro _ ⟨⟩
    decide
  path := by decide
  query := by
    rintro _ ⟨⟩
    decide

/-- The lines of a request with an origin and two subprotocols. -/
theorem lines_compose_chatUrl :
    let options := (({} : Options).withOrigin "http://example.com").withSubprotocols ["a", "b"]
    chatUrl.KeepsLine ∧ chatUrl.host = some "example.com" ∧ ∃ request,
      compose chatUrl options.origin options.headers options.subprotocols [0x00] = .ok request ∧
        linesOf request.bytes = requestLines chatUrl "example.com" options request.key ++ [[], []] ∧
        headLength? request.bytes = some request.bytes.length := by
  intro options
  have free : ∀ text ∈ freeTexts options, ¬ crlf <:+: Bytes.ofString text := by decide
  obtain ⟨request, composed, read, ends⟩ := lines_compose keepsLine_chatUrl rfl options [0x00]
  exact ⟨keepsLine_chatUrl, rfl, request, composed, read.mpr free, ends free⟩

/-- Validation accepts an origin that brings a header line of its own. -/
theorem not_forall_validated_lines :
    ¬ ∀ {url : Url} {host : String} {options : Options} {nonce : Bytes} {request : UpgradeRequest},
      url.KeepsLine → url.host = some host → options.validate = .ok () →
      compose url options.origin options.headers options.subprotocols nonce = .ok request →
      linesOf request.bytes = requestLines url host options request.key ++ [[], []] ∧
        headLength? request.bytes = some request.bytes.length := by
  intro all
  let options := ({} : Options).withOrigin "http://a\r\nX: b"
  have valid : options.validate = .ok () := by decide
  obtain ⟨request, composed, key, whole⟩ := @exists_compose chatUrl _ rfl options [0x00]
  obtain ⟨read, -⟩ := all keepsLine_chatUrl rfl valid composed
  rw [whole, key] at read
  revert read
  decide +kernel

end UpgradeRequest

end WebSocket
