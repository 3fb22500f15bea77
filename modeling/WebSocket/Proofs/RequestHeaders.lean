import WebSocket.Proofs.Http.Merging
import WebSocket.Proofs.Request

/-! # Headers of the request

The headers of a map may be added to options at once or field by field (`withHeaders_eq_foldl`), and
each field of the options is a line of the request (`headerLines_sent`). So no matter in how many
maps the headers come, all of their fields are sent (`withHeaders_additive`).
-/

namespace WebSocket

namespace UpgradeRequest

variable {url : Url} {host : String}

/-- The header lines stand among the lines of the request, one after the other. Other parts of the
request cannot spoil them, even if they hold ends of lines themselves. -/
theorem headerLines_sent (named : url.host = some host) (options : Options) (nonce : Bytes) :
    ∃ request,
      compose url options.origin options.headers options.subprotocols nonce = .ok request ∧
        headerLines options.headers <:+: Http.linesOf request.bytes := by
  obtain ⟨request, composed, -, whole⟩ := exists_compose named options nonce
  refine ⟨request, composed, ?_⟩
  have single : (headerLines options.headers).flatMap Http.linesOf = headerLines options.headers :=
    Http.flatMap_linesOf fun line member =>
      (keepsLine_headerLines options.headers line member).not_isInfix
  rw [whole, Http.linesOf_written, requestLines]
  simp only [List.flatMap_append, single, List.append_assoc]
  exact ⟨_, _, List.append_assoc ..⟩

end UpgradeRequest

namespace Options

theorem withHeaders_eq_foldl (options : Options) (added : Http.Headers) :
    options.withHeaders added =
      added.toList.foldl (fun options (name, value) => options.withHeader name value) options := by
  rw [withHeaders, Http.Headers.merge_eq_appendAll]
  generalize added.toList = fields
  induction fields generalizing options with
  | nil => rfl
  | cons field fields ih => exact ih (options.withHeader field.1 field.2)

/-- Adding a map of headers to options is adding its fields one after the other. The values of a
name are the old ones and behind them the added ones, so other names stay as they are; the old names
are in their old order and the new names behind them in the order of the map; and all fields, old
and added, are there with their names and nothing else is. What a second map brings is there as
well, and each field is one line of the request. -/
theorem withHeaders_additive {url : Url} {host : String} (named : url.host = some host)
    (options : Options) (first second : Http.Headers) (nonce : Bytes) :
    let once := options.withHeaders first
    let twice := once.withHeaders second
    once = first.toList.foldl (fun options (name, value) => options.withHeader name value)
      options ∧
    (∀ name, once.headers.getAll name = options.headers.getAll name ++ first.getAll name) ∧
    (∀ name ∉ first.names, once.headers.getAll name = options.headers.getAll name) ∧
    once.headers.names = options.headers.names ++
      first.names.filter (· ∉ options.headers.names) ∧
    once.headers.toList = once.headers.names.flatMap (fun name =>
      (options.headers.getAll name ++ first.getAll name).map (name, ·)) ∧
    once.headers.toList.Perm (options.headers.toList ++ first.toList) ∧
    (∀ name, twice.headers.getAll name =
      options.headers.getAll name ++ first.getAll name ++ second.getAll name) ∧
    twice.headers.toList.Perm (options.headers.toList ++ first.toList ++ second.toList) ∧
    ∃ request,
      UpgradeRequest.compose url twice.origin twice.headers twice.subprotocols nonce =
        .ok request ∧
      UpgradeRequest.headerLines twice.headers <:+: Http.linesOf request.bytes := by
  intro once twice
  have values (name : Http.HeaderName) :
      once.headers.getAll name = options.headers.getAll name ++ first.getAll name :=
    Http.Headers.getAll_merge options.headers first name
  have fields : once.headers.toList.Perm (options.headers.toList ++ first.toList) :=
    Http.Headers.perm_toList_merge options.headers first
  refine ⟨withHeaders_eq_foldl options first, values, fun name fresh => ?_,
    Http.Headers.names_merge options.headers first, ?_, fields, fun name => ?_, ?_,
    UpgradeRequest.headerLines_sent named twice nonce⟩
  · rw [values, Http.Headers.getAll_of_not_mem fresh, List.append_nil]
  · rw [Http.Headers.toList_eq]
    exact List.flatMap_congr fun name _ => congrArg _ (values name)
  · rw [← values]
    exact Http.Headers.getAll_merge once.headers second name
  · exact (Http.Headers.perm_toList_merge once.headers second).trans (fields.append_right _)

/-- Two maps that name the same headers, added to options that have one of these and another one. -/
theorem withHeaders_additive_of_two_maps :
    let tag : Http.HeaderName := ⟨Bytes.ofString "x-tag", by decide⟩
    let mark : Http.HeaderName := ⟨Bytes.ofString "x-mark", by decide⟩
    let seen : Http.HeaderName := ⟨Bytes.ofString "x-seen", by decide⟩
    let value (byte : UInt8) (inLine : [byte].all Http.isValueByte = true) : Http.HeaderValue :=
      ⟨[byte], inLine⟩
    let options := (({} : Options).withHeader tag (value 0x61 rfl)).withHeader seen (value 0x62 rfl)
    let first := Http.Headers.ofList
      [(tag, value 0x63 rfl), (mark, value 0x64 rfl), (tag, value 0x65 rfl)]
    let second := Http.Headers.ofList [(mark, value 0x66 rfl), (tag, value 0x67 rfl)]
    let once := options.withHeaders first
    let twice := once.withHeaders second
    UpgradeRequest.chatUrl.host = some "example.com" ∧
    (seen ∉ first.names ∧ once.headers.getAll seen = options.headers.getAll seen) ∧
    ∃ request,
      UpgradeRequest.compose UpgradeRequest.chatUrl none twice.headers [] [0x00] = .ok request ∧
      ["x-tag: a", "x-tag: c", "x-tag: e", "x-tag: g", "x-seen: b", "x-mark: d",
        "x-mark: f"].map Bytes.ofString <:+: Http.linesOf request.bytes := by
  intro tag mark seen value options first second once twice
  have fresh : seen ∉ first.names := by decide
  obtain ⟨-, -, others, -, -, -, -, -, request, composed, sent⟩ :=
    @withHeaders_additive UpgradeRequest.chatUrl _ rfl options first second [0x00]
  have lines : UpgradeRequest.headerLines twice.headers =
      ["x-tag: a", "x-tag: c", "x-tag: e", "x-tag: g", "x-seen: b", "x-mark: d",
        "x-mark: f"].map Bytes.ofString := by
    decide
  rw [← lines]
  exact ⟨rfl, ⟨fresh, others seen fresh⟩, request, composed, sent⟩

end Options

end WebSocket
