import WebSocket.Proofs.Base64
import WebSocket.Proofs.Request

/-! # The request as it is read

A reader cuts a request at its line ends and every header line at its first colon and space. What it
then has is what was asked for, part by part and in order (`compose_reads_back`). The name of a
header line holds no colon, so whatever stands in a value stays in the value; and no part holds an
end of a line, so each part stays one line.
-/

namespace WebSocket

open Http (KeepsLine linesOf)

/-! ## Texts that stay together -/

/-- Texts without an end of a line. -/
def OneLine (text : String) : Prop :=
  ∀ c ∈ text.toList, c ≠ '\r' ∧ c ≠ '\n'

instance : DecidablePred OneLine :=
  fun text => text.toList.decidableBAll fun c => c ≠ '\r' ∧ c ≠ '\n'

/-- Texts without an end of a line and without spaces. -/
def OneWord (text : String) : Prop :=
  ∀ c ∈ text.toList, c ≠ ' ' ∧ c ≠ '\r' ∧ c ≠ '\n'

instance : DecidablePred OneWord :=
  fun text => text.toList.decidableBAll fun c => c ≠ ' ' ∧ c ≠ '\r' ∧ c ≠ '\n'

theorem OneLine.keepsLine {text : String} (whole : OneLine text) :
    KeepsLine (Bytes.ofString text) :=
  Bytes.keepsLine_of_chars whole

theorem OneWord.keepsLine {text : String} (word : OneWord text) :
    KeepsLine (Bytes.ofString text) :=
  Bytes.keepsLine_of_chars fun c member => (word c member).2

theorem OneWord.append {front back : String} (first : OneWord front) (second : OneWord back) :
    OneWord (front ++ back) := by
  intro c member
  rw [String.toList_append, List.mem_append] at member
  exact member.elim (first c) (second c)

theorem keepsLine_intercalate {names : List String} (all : ∀ name ∈ names, OneLine name) :
    KeepsLine (Bytes.ofString (String.intercalate ", " names)) := by
  induction names with
  | nil => decide
  | cons name others ih =>
    obtain ⟨first, later⟩ := List.forall_mem_cons.mp all
    cases others with
    | nil => simpa using first.keepsLine
    | cons next others =>
      rw [String.intercalate_cons_cons, Bytes.ofString_append, Bytes.ofString_append,
        Http.keepsLine_append, Http.keepsLine_append]
      exact ⟨⟨first.keepsLine, by decide⟩, ih later⟩

/-- A URL whose host, path and query are words. -/
structure Url.IsPlain (url : Url) : Prop where
  host : ∀ host ∈ url.host, OneWord host
  path : OneWord url.path
  query : ∀ query ∈ url.query, OneWord query

theorem Url.IsPlain.keepsLine {url : Url} (plain : url.IsPlain) : url.KeepsLine where
  host host named := (plain.host host named).keepsLine
  path := plain.path.keepsLine
  query query given := (plain.query query given).keepsLine

theorem Url.IsPlain.requestTarget {url : Url} (plain : url.IsPlain) :
    OneWord url.requestTarget := by
  have path : OneWord (if url.path.isEmpty then "/" else url.path) := by
    split
    · decide
    · exact plain.path
  unfold Url.requestTarget
  cases given : url.query with
  | none => exact path
  | some query => exact (path.append (by decide)).append (plain.query query given)

namespace UpgradeRequest

/-! ## Header lines that are read -/

/-- A header line cut at its first colon and space. -/
def nameAndValue? : Bytes → Option (Bytes × Bytes)
  | [] => none
  | 0x3A :: 0x20 :: value => some ([], value)
  | byte :: line => (nameAndValue? line).map fun (name, value) => (byte :: name, value)

/-- A header line is read as it was written when its name holds no colon. -/
theorem nameAndValue?_fieldLine {field : Bytes × Bytes} (noColon : 0x3A ∉ field.1) :
    nameAndValue? (fieldLine field) = some field := by
  obtain ⟨name, value⟩ := field
  have colon : Bytes.ofString ": " = [0x3A, 0x20] := by decide
  rw [fieldLine, colon]
  induction name with
  | nil => rfl
  | cons byte name ih =>
    have other : 0x3A ≠ byte := List.ne_of_not_mem_cons noColon
    have later : 0x3A ∉ name := List.not_mem_of_not_mem_cons noColon
    rw [List.cons_append, List.cons_append, nameAndValue?, ih later, Option.map_some]
    rintro rest rfl
    exact absurd rfl other

/-! ## What is sent -/

/-- The host as it is sent: with a port when the URL has one of its own. -/
def sentHost (url : Url) (host : String) : String :=
  match url.port with
  | some port => host ++ ":" ++ toString port
  | none => host

/-- A field of two texts. -/
def textField (name value : String) : Bytes × Bytes :=
  (Bytes.ofString name, Bytes.ofString value)

/-- The fields that a request is meant to have. -/
def sentFields (url : Url) (host : String) (origin : Option String) (headers : Http.Headers)
    (subprotocols : List String) (key : String) : List (Bytes × Bytes) :=
  [textField "Host" (sentHost url host), textField "Upgrade" "websocket",
    textField "Connection" "Upgrade"]
  ++ headers.toList.map (fun (name, value) => (name.bytes, value.bytes))
  ++ (origin.map (textField "Origin")).toList
  ++ [textField "Sec-WebSocket-Key" key]
  ++ (if subprotocols = [] then []
      else [textField "Sec-WebSocket-Protocol" (String.intercalate ", " subprotocols)])
  ++ [textField "Sec-WebSocket-Version" "13"]

/-- A field whose line is read as it was written. -/
structure IsReadable (field : Bytes × Bytes) : Prop where
  noColon : 0x3A ∉ field.1
  name : KeepsLine field.1
  value : KeepsLine field.2

theorem IsReadable.keepsLine {field : Bytes × Bytes} (readable : IsReadable field) :
    KeepsLine (fieldLine field) := by
  rw [fieldLine, Http.keepsLine_append, Http.keepsLine_append]
  exact ⟨⟨readable.name, by decide⟩, readable.value⟩

theorem keepsLine_sentHost {url : Url} {host : String} (word : OneWord host) :
    KeepsLine (Bytes.ofString (sentHost url host)) := by
  unfold sentHost
  cases url.port with
  | none => exact word.keepsLine
  | some port =>
    simp only [Bytes.ofString_append, Http.keepsLine_append]
    exact ⟨⟨word.keepsLine, by decide⟩, keepsLine_number port⟩

theorem isReadable_textField {name value : String} (noColon : 0x3A ∉ Bytes.ofString name)
    (nameLine : KeepsLine (Bytes.ofString name)) (valueLine : KeepsLine (Bytes.ofString value)) :
    IsReadable (textField name value) :=
  ⟨noColon, nameLine, valueLine⟩

/-- A name in a header map is a token, which holds no colon. -/
theorem isReadable_header (name : Http.HeaderName) (value : Http.HeaderValue) :
    IsReadable (name.bytes, value.bytes) where
  noColon member := by cases List.all_eq_true.mp name.isToken _ member
  name := name.keepsLine
  value := value.keepsLine

section
variable {url : Url} {host : String} {origin : Option String} {headers : Http.Headers}
  {subprotocols : List String} {nonce : Bytes}

theorem isReadable_of_mem_sentFields (word : OneWord host)
    (originLine : ∀ text ∈ origin, OneLine text)
    (subprotocolLines : ∀ name ∈ subprotocols, OneLine name) {field : Bytes × Bytes}
    (member : field ∈ sentFields url host origin headers subprotocols
      (Text.Base64.encode nonce)) : IsReadable field := by
  simp only [sentFields, List.mem_append, List.mem_cons, List.not_mem_nil, or_false,
    or_assoc, List.mem_map, Option.mem_toList, Option.map_eq_some_iff] at member
  obtain rfl | rfl | rfl | ⟨⟨name, value⟩, -, rfl⟩ | ⟨text, given, rfl⟩ | rfl | offered | rfl :=
    member
  · exact isReadable_textField (by decide) (by decide) (keepsLine_sentHost word)
  · exact isReadable_textField (by decide) (by decide) (by decide)
  · exact isReadable_textField (by decide) (by decide) (by decide)
  · exact isReadable_header name value
  · exact isReadable_textField (by decide) (by decide) (originLine text given).keepsLine
  · exact isReadable_textField (by decide) (by decide) (keepsLine_encode nonce)
  · split at offered
    · cases offered
    · obtain rfl := List.mem_singleton.mp offered
      exact isReadable_textField (by decide) (by decide) (keepsLine_intercalate subprotocolLines)
  · exact isReadable_textField (by decide) (by decide) (by decide)

/-- A URL with a host has a request, with the fields that it is meant to have. -/
theorem compose_eq_ok (named : url.host = some host) :
    compose url origin headers subprotocols nonce = .ok {
      target := url.requestTarget
      fields := sentFields url host origin headers subprotocols (Text.Base64.encode nonce)
      key := Text.Base64.encode nonce
      subprotocols } := by
  have sent : host ++ (url.port.map fun port => ":" ++ toString port).getD "" =
      sentHost url host := by
    unfold sentHost
    cases url.port <;> simp [String.append_assoc]
  unfold compose
  rw [named]
  dsimp only
  rw [sent]
  simp only [List.isEmpty_iff]
  rfl

theorem compose_of_no_host (nameless : url.host = none) :
    compose url origin headers subprotocols nonce = .error .missingHost := by
  unfold compose
  rw [nameless]

/-- A request is read as what was asked for, part by part and in order. Its first line names path
and query in one word, its header lines are those that were meant, and two empty lines are its end.
The key stands for the random bytes. Only a URL without a host has no request. -/
theorem compose_reads_back (plain : url.IsPlain) (random : nonce.length = 16)
    (originLine : ∀ text ∈ origin, OneLine text)
    (subprotocolLines : ∀ name ∈ subprotocols, OneLine name) :
    (url.host = none →
      compose url origin headers subprotocols nonce = .error .missingHost) ∧
    ∀ host, url.host = some host → ∃ request lines,
      let target := (if url.path = "" then "/" else url.path) ++
        (url.query.map fun query => "?" ++ query).getD ""
      compose url origin headers subprotocols nonce = .ok request ∧
      linesOf request.bytes =
        Bytes.ofString ("GET " ++ target ++ " HTTP/1.1") :: lines ++ [[], []] ∧
      OneWord target ∧
      lines.map nameAndValue? =
        (sentFields url host origin headers subprotocols request.key).map some ∧
      request.key.length = 24 ∧ Text.Base64.decode? request.key = some nonce := by
  refine ⟨compose_of_no_host, fun host named => ?_⟩
  have target : url.requestTarget = (if url.path = "" then "/" else url.path) ++
      (url.query.map fun query => "?" ++ query).getD "" := by
    unfold Url.requestTarget
    cases url.query <;> simp [String.append_assoc]
  have readable : ∀ field ∈ sentFields url host origin headers subprotocols
      (Text.Base64.encode nonce), IsReadable field := fun field member =>
    isReadable_of_mem_sentFields (plain.host host named) originLine subprotocolLines member
  refine ⟨_, (sentFields url host origin headers subprotocols (Text.Base64.encode nonce)).map
    fieldLine, compose_eq_ok named, ?_, target ▸ plain.requestTarget, ?_, ?_,
    Text.Base64.decode?_encode nonce⟩
  · rw [bytes_eq_written, ← target]
    refine (Http.linesOf_written_iff _).mpr (List.forall_mem_cons.mpr ⟨?_, ?_⟩)
    · exact (keepsLine_startLine plain.keepsLine).not_isInfix
    · intro line member
      obtain ⟨field, inFields, rfl⟩ := List.mem_map.mp member
      exact (readable field inFields).keepsLine.not_isInfix
  · rw [List.map_map]
    exact List.map_congr_left fun field member =>
      nameAndValue?_fieldLine (readable field member).noColon
  · rw [Text.Base64.length_encode, random]

end

/-- The header lines of a request with two values of one name, one of them with a colon and one that
is no ASCII text. -/
theorem compose_reads_back_chatUrl :
    let tag : Http.HeaderName := ⟨Bytes.ofString "x-tag", by decide⟩
    let headers := Http.Headers.ofList
      [(tag, ⟨Bytes.ofString "a: b", by decide⟩), (tag, ⟨[0xC3, 0xA4], by decide⟩)]
    let nonce : Bytes := List.replicate 16 0x00
    chatUrl.IsPlain ∧ nonce.length = 16 ∧ OneLine "http://a.org" ∧ ∃ request lines,
      compose chatUrl (some "http://a.org") headers ["chat", "talk"] nonce = .ok request ∧
      linesOf request.bytes =
        Bytes.ofString "GET /chat?room=1 HTTP/1.1" :: lines ++ [[], []] ∧
      lines.map nameAndValue? = [
        some (textField "Host" "example.com:8080"), some (textField "Upgrade" "websocket"),
        some (textField "Connection" "Upgrade"), some (textField "x-tag" "a: b"),
        some (Bytes.ofString "x-tag", [0xC3, 0xA4]), some (textField "Origin" "http://a.org"),
        some (textField "Sec-WebSocket-Key" request.key),
        some (textField "Sec-WebSocket-Protocol" "chat, talk"),
        some (textField "Sec-WebSocket-Version" "13")] := by
  intro tag headers nonce
  have plain : chatUrl.IsPlain := by
    refine ⟨?_, by decide, ?_⟩
    all_goals
      rintro _ ⟨⟩
      decide
  have originLine : ∀ text ∈ some "http://a.org", OneLine text := by
    rintro _ ⟨⟩
    decide
  have subprotocolLines : ∀ name ∈ ["chat", "talk"], OneLine name := by decide
  have random : nonce.length = 16 := rfl
  obtain ⟨-, readsBack⟩ :=
    @compose_reads_back _ _ headers _ _ plain random originLine subprotocolLines
  obtain ⟨request, lines, composed, read, -, fields, -, -⟩ := readsBack "example.com" rfl
  have names : headers.toList = [(tag, ⟨Bytes.ofString "a: b", by decide⟩),
      (tag, ⟨[0xC3, 0xA4], by decide⟩)] := by
    decide
  refine ⟨plain, random, originLine _ rfl, request, lines, composed, read, ?_⟩
  rw [fields, sentFields, names]
  rfl

end UpgradeRequest

end WebSocket
