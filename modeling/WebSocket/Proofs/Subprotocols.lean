import WebSocket.Proofs.Http.Reading
import WebSocket.Proofs.Options
import WebSocket.Upgrade

/-! # Subprotocols that can be agreed on

Subprotocols are asked for in one header value with commas between them, and the answer is read the
same way. So a name can be agreed on exactly when it is visible text without commas and without
blanks at its ends (`Negotiable`): no answer whatever agrees on any other name
(`negotiable_of_verify`), and every proper answer with that name alone agrees on it
(`verify_of_single`). Validation only asks that a name is not blank.
-/

namespace WebSocket

open Http (HeaderName HeaderValue Headers ResponseHead HeadText FieldLine Visible)

namespace UpgradeRequest

/-! ## Items between commas -/

/-- Whether characters can stand between commas as they are. -/
def IsItem (chars : List Char) : Prop :=
  ',' ∉ chars ∧ Text.trim chars = chars

instance : DecidablePred IsItem :=
  fun chars => inferInstanceAs (Decidable (',' ∉ chars ∧ Text.trim chars = chars))

/-- What is read between commas is an item, and a part of what was read. -/
theorem of_mem_items {value : String} {item : List Char} (member : item ∈ items value) :
    IsItem item ∧ item ⊆ value.toList := by
  obtain ⟨piece, inside, rfl⟩ := List.mem_map.mp member
  obtain ⟨free, subset⟩ := Text.mem_splitOn inside
  exact ⟨⟨fun comma => free (Text.subset_trim piece comma), Text.trim_trim piece⟩,
    List.Subset.trans (Text.subset_trim piece) subset⟩

/-- An item that stands alone is read as it is. -/
theorem items_of_isItem {name : String} (isItem : IsItem name.toList) :
    items name = [name.toList] := by
  rw [items, List.splitOn_eq_singleton isItem.1, List.map_singleton, isItem.2]

/-- A comma and a space between two values part their items. -/
theorem items_append (front back : String) :
    items (front ++ ", " ++ back) = items front ++ items back := by
  have whole : (front ++ ", " ++ back).toList = front.toList ++ ',' :: ' ' :: back.toList := by
    simp
  obtain ⟨head, later, pieces⟩ :=
    List.exists_cons_of_ne_nil (List.splitOn_ne_nil ',' back.toList)
  have blank : Text.trim (' ' :: head) = Text.trim head := rfl
  rw [items, items, items, whole, List.splitOn_append_cons_self,
    List.splitOn_cons_eq_if_modifyHead, pieces]
  simp [blank]

/-- The items of values that were joined are those of each value. -/
theorem items_intercalate {values : List String} (nonempty : values ≠ []) :
    items (String.intercalate ", " values) = values.flatMap items := by
  induction values with
  | nil => exact absurd rfl nonempty
  | cons value others ih =>
    cases others with
    | nil => simp
    | cons next others =>
      rw [String.intercalate_cons_cons, items_append, ih (List.cons_ne_nil _ _)]
      rfl

/-- Names are read back from the value that lists them exactly when each of them is an item. -/
theorem items_intercalate_iff {names : List String} (nonempty : names ≠ []) :
    items (String.intercalate ", " names) = names.map String.toList ↔
      ∀ name ∈ names, IsItem name.toList := by
  constructor
  · intro read name member
    have inside : name.toList ∈ items (String.intercalate ", " names) := by
      rw [read]
      exact List.mem_map_of_mem member
    exact (of_mem_items inside).1
  · intro all
    rw [items_intercalate nonempty, List.map_eq_flatMap]
    exact List.flatMap_congr fun name member => items_of_isItem (all name member)

/-! ## What is agreed on -/

/-- A name that can be agreed on. -/
structure Negotiable (name : String) : Prop where
  isItem : IsItem name.toList
  visible : Visible name

def upgradeName : HeaderName := ⟨Bytes.ofString "upgrade", by decide⟩

def connectionName : HeaderName := ⟨Bytes.ofString "connection", by decide⟩

def acceptName : HeaderName := ⟨Bytes.ofString "sec-websocket-accept", by decide⟩

def protocolName : HeaderName := ⟨Bytes.ofString "sec-websocket-protocol", by decide⟩

theorem ofBytes?_protocol :
    HeaderName.ofBytes? (Bytes.ofString "sec-websocket-protocol") = some protocolName := by
  decide

variable {request : UpgradeRequest} {head : ResponseHead} {name : String}

/-- Whether the answer is right in all but the subprotocol. -/
structure Agrees (request : UpgradeRequest) (head : ResponseHead) : Prop where
  status : head.status = 101
  upgrade : lists head.headers "upgrade" "websocket" = true
  connection : lists head.headers "connection" "upgrade" = true
  accept : (head.headers.joinedByText? "sec-websocket-accept").map (fun value =>
    String.ofList (Text.trim value.toList)) = some request.expectedAccept

/-- An answer is accepted when it agrees and, if subprotocols were asked for, one of them is
chosen. -/
theorem verify_eq_ok_iff {agreed : Option String} :
    request.verify head = .ok agreed ↔ request.Agrees head ∧
      (request.subprotocols = [] ∧ agreed = none ∨
        request.subprotocols ≠ [] ∧ ∃ name,
          negotiate request.subprotocols head.headers = .ok name ∧ agreed = some name) := by
  constructor
  · intro verified
    unfold verify at verified
    dsimp only at verified
    split_ifs at verified with status upgrade connection accept noneAsked
    all_goals
      rw [Bool.not_eq_true, Bool.not_eq_false'] at upgrade connection
      refine ⟨⟨not_not.mp status, upgrade, connection, not_not.mp accept⟩, ?_⟩
    · exact .inl ⟨List.isEmpty_iff.mp noneAsked, (Except.ok.inj verified).symm⟩
    · refine .inr ⟨mt List.isEmpty_iff.mpr noneAsked, ?_⟩
      cases chosen : negotiate request.subprotocols head.headers with
      | error cause =>
        rw [chosen] at verified
        cases verified
      | ok name =>
        rw [chosen] at verified
        exact ⟨name, rfl, (Except.ok.inj verified).symm⟩
  · rintro ⟨agrees, ⟨noneAsked, rfl⟩ | ⟨asked, name, chosen, rfl⟩⟩
    · simp [verify, agrees.status, agrees.upgrade, agrees.connection, agrees.accept, noneAsked]
    · simp [verify, agrees.status, agrees.upgrade, agrees.connection, agrees.accept, asked, chosen,
        Except.map]

/-- A name is chosen when it is the first one that was asked for of all that are offered, and no
offer is blank. -/
theorem negotiate_eq_ok_iff {requested : List String} {headers : Headers} :
    negotiate requested headers = .ok name ↔
      ∃ value, headers.joined? protocolName = some value ∧ [] ∉ items value ∧
        ((items value).map String.ofList).find? requested.contains = some name := by
  rw [negotiate, Headers.joinedByText?, ofBytes?_protocol, Option.bind_some]
  cases headers.joined? protocolName with
  | none => simp
  | some value =>
    have blank : ((items value).map String.ofList).any String.isEmpty = true ↔
        [] ∈ items value := by
      simp
    by_cases spoiled : [] ∈ items value
    · simp [blank.mpr spoiled, spoiled]
    · dsimp only
      rw [if_neg (mt blank.mp spoiled)]
      constructor
      · intro chosen
        split at chosen
        · next found =>
          cases chosen
          exact ⟨value, rfl, spoiled, found⟩
        · cases chosen
      · rintro ⟨_, ⟨⟩, -, found⟩
        rw [found]

theorem mem_of_negotiate {requested : List String} {headers : Headers}
    (chosen : negotiate requested headers = .ok name) : name ∈ requested := by
  obtain ⟨value, -, -, found⟩ := negotiate_eq_ok_iff.mp chosen
  simpa using List.find?_some found

/-- The subprotocol that is agreed on is one of those that were asked for, if any were. -/
theorem subprotocol_of_verify {subprotocol : Option String}
    (verified : request.verify head = .ok subprotocol) :
    (request.subprotocols = [] → subprotocol = none) ∧
      (request.subprotocols ≠ [] → ∃ name ∈ request.subprotocols, subprotocol = some name) := by
  obtain ⟨-, ⟨noneAsked, rfl⟩ | ⟨asked, name, chosen, rfl⟩⟩ := verify_eq_ok_iff.mp verified
  · exact ⟨fun _ => rfl, absurd noneAsked⟩
  · exact ⟨fun none => absurd none asked, fun _ => ⟨name, mem_of_negotiate chosen, rfl⟩⟩

theorem subprotocols_of_compose {url : Url} {origin : Option String} {headers : Http.Headers}
    {subprotocols : List String} {nonce : Bytes}
    (composed : compose url origin headers subprotocols nonce = .ok request) :
    request.subprotocols = subprotocols := by
  unfold compose at composed
  split at composed
  · cases composed
  · cases composed
    rfl

/-- No answer agrees on a name that is not negotiable. -/
theorem negotiable_of_verify (verified : request.verify head = .ok (some name)) :
    Negotiable name := by
  obtain ⟨-, ⟨-, none⟩ | ⟨-, other, chosen, same⟩⟩ := verify_eq_ok_iff.mp verified
  · cases none
  · cases same
    obtain ⟨value, joined, -, found⟩ := negotiate_eq_ok_iff.mp chosen
    obtain ⟨item, member, rfl⟩ := List.mem_map.mp (List.mem_of_find?_eq_some found)
    obtain ⟨isItem, subset⟩ := of_mem_items member
    have visible := Headers.visible_of_joined? joined
    refine ⟨by rwa [String.toList_ofList], fun c inItem => ?_⟩
    rw [String.toList_ofList] at inItem
    exact visible c (subset inItem)

/-- A negotiable name that was asked for is agreed on when it is offered alone. -/
theorem verify_of_single (agrees : request.Agrees head) (member : name ∈ request.subprotocols)
    (nonempty : name ≠ "") (negotiable : Negotiable name) {value : HeaderValue}
    (single : head.headers.getAll protocolName = [value])
    (spelled : value.bytes = Bytes.ofString name) : request.verify head = .ok (some name) := by
  have read : value.text? = some name :=
    HeaderValue.text?_eq_some_iff.mpr ⟨spelled, negotiable.visible⟩
  have joined : head.headers.joined? protocolName = some name :=
    Headers.joined?_of_single single read
  have chosen : negotiate request.subprotocols head.headers = .ok name := by
    refine negotiate_eq_ok_iff.mpr ⟨name, joined, ?_⟩
    simp [items_of_isItem negotiable.isItem, nonempty, member]
  exact verify_eq_ok_iff.mpr ⟨agrees, .inr ⟨List.ne_nil_of_mem member, name, chosen, rfl⟩⟩

/-! ## The plain answer -/

theorem solid_expectedAccept (request : UpgradeRequest) :
    ∀ c ∈ request.expectedAccept.toList, Http.isVisible c = true ∧ Text.isBlank c = false := by
  intro c member
  rw [expectedAccept, acceptKey, Text.Base64.encode, String.toList_ofList] at member
  have padding : Http.isVisible '=' = true ∧ Text.isBlank '=' = false := by decide
  have digits : ∀ value < 64, Http.isVisible (Text.Base64.digit value) = true ∧
      Text.isBlank (Text.Base64.digit value) = false := by
    decide
  exact Text.Base64.mem_encodeChars
    (P := fun c => Http.isVisible c = true ∧ Text.isBlank c = false) padding digits member

theorem visible_expectedAccept (request : UpgradeRequest) : Visible request.expectedAccept :=
  fun c member => (solid_expectedAccept request c member).1

theorem trim_expectedAccept (request : UpgradeRequest) :
    Text.trim request.expectedAccept.toList = request.expectedAccept.toList :=
  Text.trim_eq_self
    (fun c first => (solid_expectedAccept request c (List.mem_of_mem_head? first)).2)
    fun c last => (solid_expectedAccept request c (List.mem_of_getLast? last)).2

/-- The shortest answer that agrees on a subprotocol. -/
def plainAnswer (request : UpgradeRequest) (name : String) (visible : Visible name) : HeadText where
  status := {
    version := Bytes.ofString "1.1"
    gap := Bytes.ofString " "
    digits := Bytes.ofString "101"
    reason := Bytes.ofString " Switching Protocols"
    version_nonempty := by decide
    version_all := by decide
    gap_nonempty := by decide
    gap_all := by decide
    digits_nonempty := by decide
    digits_all := by decide
    status_small := by decide
    reason_stops := fun _ first => by cases first; rfl
    reason_line := by decide }
  lines := [
    .ofTexts "Upgrade" "websocket" (by decide) (by decide) (by decide),
    .ofTexts "Connection" "Upgrade" (by decide) (by decide) (by decide),
    .ofTexts "Sec-WebSocket-Accept" request.expectedAccept (by decide) (by decide)
      (visible_expectedAccept request),
    .ofTexts "Sec-WebSocket-Protocol" name (by decide) (by decide) visible]

/-- The fields of the plain answer. -/
def plainFields (request : UpgradeRequest) (name : String) (visible : Visible name) :
    List (HeaderName × HeaderValue) :=
  [(upgradeName, .ofText "websocket" (by decide)), (connectionName, .ofText "Upgrade" (by decide)),
    (acceptName, .ofText request.expectedAccept (visible_expectedAccept request)),
    (protocolName, .ofText name visible)]

theorem readFields_plainAnswer (request : UpgradeRequest) (visible : Visible name)
    (trimmed : Text.trim name.toList = name.toList) :
    ((request.plainAnswer name visible).lines.map FieldLine.field).mapM Http.readField? =
      some (request.plainFields name visible) := by
  have upgrade : HeaderName.ofBytes? (Bytes.ofString "Upgrade") = some upgradeName := by decide
  have connection : HeaderName.ofBytes? (Bytes.ofString "Connection") = some connectionName := by
    decide
  have accept : HeaderName.ofBytes? (Bytes.ofString "Sec-WebSocket-Accept") =
      some acceptName := by
    decide
  have protocol : HeaderName.ofBytes? (Bytes.ofString "Sec-WebSocket-Protocol") =
      some protocolName := by
    decide
  have websocketTrimmed : Text.trim "websocket".toList = "websocket".toList := by decide
  have upgradeTrimmed : Text.trim "Upgrade".toList = "Upgrade".toList := by decide
  simp only [plainAnswer, List.map_cons, List.map_nil, List.mapM_cons, List.mapM_nil,
    Http.readField?_ofTexts upgrade _ websocketTrimmed,
    Http.readField?_ofTexts connection _ upgradeTrimmed,
    Http.readField?_ofTexts accept _ (trim_expectedAccept request),
    Http.readField?_ofTexts protocol _ trimmed]
  rfl

/-- A field of the plain answer stands alone under its name. -/
theorem joinedByText?_plainFields (request : UpgradeRequest) (visible : Visible name) :
    let headers := Headers.ofList (request.plainFields name visible)
    headers.joinedByText? "upgrade" = some "websocket" ∧
      headers.joinedByText? "connection" = some "Upgrade" ∧
      headers.joinedByText? "sec-websocket-accept" = some request.expectedAccept := by
  intro headers
  have single (held : HeaderName) :=
    Headers.getAll_ofList (request.plainFields name visible) held
  exact ⟨Headers.joinedByText?_of_single (by decide) (single upgradeName)
      (HeaderValue.text?_ofText _),
    Headers.joinedByText?_of_single (by decide) (single connectionName)
      (HeaderValue.text?_ofText _),
    Headers.joinedByText?_of_single (by decide) (single acceptName)
      (HeaderValue.text?_ofText _)⟩

/-- The plain answer with a trimmed name is read, agrees, and offers that name alone. -/
theorem exists_parse?_plainAnswer (request : UpgradeRequest) (visible : Visible name)
    (trimmed : Text.trim name.toList = name.toList) :
    ∃ head, ResponseHead.parse? (request.plainAnswer name visible).bytes = some head ∧
      request.Agrees head ∧ head.headers.getAll protocolName = [.ofText name visible] := by
  have few : (request.plainAnswer name visible).lines.length ≤ Headers.capacity :=
    show 4 ≤ Headers.capacity by decide
  have parsed := HeadText.parse?_bytes_of_short
    (readFields_plainAnswer request visible trimmed) few
  rw [HeadText.headOf] at parsed
  obtain ⟨upgrade, connection, accept⟩ := joinedByText?_plainFields request visible
  have single := Headers.getAll_ofList (request.plainFields name visible) protocolName
  refine ⟨_, parsed, ⟨rfl, ?_, ?_, ?_⟩, single⟩
  · rw [lists, upgrade]
    decide
  · rw [lists, connection]
    decide
  · rw [accept, Option.map_some, trim_expectedAccept, String.ofList_toList]

/-! ## Validated subprotocols -/

variable {url : Url} {options : Options} {nonce : Bytes}

theorem mem_fields_of_compose (asked : options.subprotocols ≠ [])
    (composed : compose url options.origin options.headers options.subprotocols nonce =
      .ok request) :
    (Bytes.ofString "Sec-WebSocket-Protocol",
      Bytes.ofString (String.intercalate ", " options.subprotocols)) ∈ request.fields := by
  unfold compose at composed
  split at composed
  · cases composed
  · cases composed
    simp [asked]

/-- Of the subprotocols that validation accepts exactly the negotiable ones can be agreed on. They
are then agreed on by any proper answer that offers them alone. The list that is sent is read back
exactly when all its names are items. -/
theorem negotiable_of_validated (valid : options.validate = .ok ())
    (asked : options.subprotocols ≠ [])
    (composed : compose url options.origin options.headers options.subprotocols nonce =
      .ok request) :
    (∃ value, (Bytes.ofString "Sec-WebSocket-Protocol", Bytes.ofString value) ∈ request.fields ∧
      (items value = options.subprotocols.map String.toList ↔
        ∀ name ∈ options.subprotocols, IsItem name.toList)) ∧
    ∀ name ∈ options.subprotocols,
      ((∃ bytes head, ResponseHead.parse? bytes = some head ∧
        request.verify head = .ok (some name)) ↔ Negotiable name) ∧
      ∀ head value, request.Agrees head → head.headers.getAll protocolName = [value] →
        value.bytes = Bytes.ofString name →
        (request.verify head = .ok (some name) ↔ Negotiable name) := by
  have sent := mem_fields_of_compose asked composed
  refine ⟨⟨_, sent, items_intercalate_iff asked⟩, fun name member => ?_⟩
  have nonempty : name ≠ "" := by
    rintro rfl
    cases (Options.validate_eq_ok_iff.mp valid).named "" member
  rw [← subprotocols_of_compose composed] at member
  refine ⟨⟨?_, fun negotiable => ?_⟩, fun head value agrees single spelled => ⟨?_, ?_⟩⟩
  · rintro ⟨bytes, head, -, verified⟩
    exact negotiable_of_verify verified
  · obtain ⟨head, parsed, agrees, single⟩ :=
      exists_parse?_plainAnswer request negotiable.visible negotiable.isItem.2
    exact ⟨_, head, parsed, verify_of_single agrees member nonempty negotiable single rfl⟩
  · exact negotiable_of_verify
  · exact fun negotiable => verify_of_single agrees member nonempty negotiable single spelled

/-- Two names that can be agreed on. -/
theorem negotiable_of_validated_chat :
    let url : Url :=
      { scheme := "ws", host := some "example.com", port := none, path := "/", query := none }
    let options := ({} : Options).withSubprotocols ["chat", "chat.v2"]
    options.validate = .ok () ∧ options.subprotocols ≠ [] ∧ ∃ request,
      compose url options.origin options.headers options.subprotocols [0x00] = .ok request ∧
        ∀ name ∈ options.subprotocols, ∃ bytes head, ResponseHead.parse? bytes = some head ∧
          request.verify head = .ok (some name) := by
  intro url options
  have valid : options.validate = .ok () := by decide
  have asked : options.subprotocols ≠ [] := by decide
  refine ⟨valid, asked, _, rfl, fun name member => ?_⟩
  have negotiable : Negotiable name := by
    have all : ∀ name ∈ options.subprotocols, IsItem name.toList ∧ Visible name := by decide
    exact ⟨(all name member).1, (all name member).2⟩
  exact (((@negotiable_of_validated _ url options [0x00] valid asked rfl).2 name member).1).mpr
    negotiable

/-- Validation accepts a name with a comma in it, which is read as two and never agreed on. -/
theorem exists_validated_not_negotiable :
    let options := ({} : Options).withSubprotocol "a,b"
    options.validate = .ok () ∧
      items (String.intercalate ", " options.subprotocols) ≠
        options.subprotocols.map String.toList ∧
      ∀ name ∈ options.subprotocols, ∀ (request : UpgradeRequest) (head : ResponseHead),
        request.verify head ≠ .ok (some name) := by
  intro options
  refine ⟨by decide, by decide, fun name member request head verified => ?_⟩
  obtain rfl := List.mem_singleton.mp member
  exact absurd (negotiable_of_verify verified).isItem (by decide)

end UpgradeRequest

end WebSocket
