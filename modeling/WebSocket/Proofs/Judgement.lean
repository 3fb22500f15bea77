import Mathlib.Order.WellFounded
import WebSocket.Proofs.Base64
import WebSocket.Proofs.Subprotocols

/-! # How an answer is judged

An answer to an upgrade request has to keep five rules, and what they ask for is said here without
the reader: a list may be spread over any number of header lines with commas inside each of them,
and values that are no visible text do not count (`Keeps`). `verify_judges` states that the answer
is accepted exactly when it keeps all rules, which subprotocol is then agreed on, and that a fault
is that of the first rule that is broken.
-/

namespace WebSocket

open Http (HeaderName HeaderValue Headers ResponseHead)

namespace UpgradeRequest

variable {request : UpgradeRequest} {head : ResponseHead}

/-! ## The rules -/

/-- The values of a name that are visible text. -/
def texts (head : ResponseHead) (name : HeaderName) : List String :=
  (head.headers.getAll name).filterMap HeaderValue.text?

/-- What the values of a name list between commas, each value read for itself. -/
def listed (head : ResponseHead) (name : HeaderName) : List (List Char) :=
  (texts head name).flatMap items

/-- What is asked of an answer. -/
inductive Rule where
  | status
  | upgrade
  | connection
  | accept
  | subprotocol
deriving DecidableEq, Repr

/-- The place of a rule among those that are judged one after the other. -/
def Rule.place : Rule → Nat
  | .status => 0
  | .upgrade => 1
  | .connection => 2
  | .accept => 3
  | .subprotocol => 4

/-- The fault of an answer that breaks a rule. -/
def Rule.error (head : ResponseHead) : Rule → UpgradeError
  | .status => .status head.status
  | .upgrade => .upgradeHeader
  | .connection => .connectionHeader
  | .accept => .acceptHeader
  | .subprotocol => .subprotocol

/-- Whether an answer keeps a rule. -/
def Keeps (request : UpgradeRequest) (head : ResponseHead) : Rule → Prop
  | .status => head.status = 101
  | .upgrade =>
    ∃ item ∈ listed head upgradeName, item.map Char.toLower = "websocket".toList
  | .connection =>
    ∃ item ∈ listed head connectionName, item.map Char.toLower = "upgrade".toList
  | .accept =>
    String.ofList (Text.trim (String.intercalate ", " (texts head acceptName)).toList) =
      Text.Base64.encode (Digest.Sha1.digest (Bytes.ofString
        (request.key ++ "258EAFA5-E914-47DA-95CA-C5AB0DC85B11")))
  | .subprotocol => request.subprotocols ≠ [] →
    texts head protocolName ≠ [] ∧ [] ∉ listed head protocolName ∧
      ∃ item ∈ listed head protocolName, String.ofList item ∈ request.subprotocols

/-- Whether this is to be agreed on: nothing when nothing was asked for, otherwise the first that is
listed of those that were asked for. -/
def IsAgreed (request : UpgradeRequest) (head : ResponseHead) : Option String → Prop
  | none => request.subprotocols = []
  | some name => request.subprotocols ≠ [] ∧ name ∈ request.subprotocols ∧ ∃ before after,
    listed head protocolName = before ++ name.toList :: after ∧
      ∀ item ∈ before, String.ofList item ∉ request.subprotocols

/-! ## Values that are joined -/

/-- The text of a name is there when one of its values is. -/
theorem joinedByText?_eq (head : ResponseHead) {spelled : String} {name : HeaderName}
    (named : HeaderName.ofBytes? (Bytes.ofString spelled) = some name) :
    texts head name = [] ∧ head.headers.joinedByText? spelled = none ∨
      texts head name ≠ [] ∧ head.headers.joinedByText? spelled =
        some (String.intercalate ", " (texts head name)) := by
  rw [Headers.joinedByText?, named, Option.bind_some, Headers.joined?, texts]
  cases (head.headers.getAll name).filterMap HeaderValue.text? with
  | nil => exact .inl ⟨rfl, rfl⟩
  | cons value others => exact .inr ⟨List.cons_ne_nil _ _, rfl⟩

/-- A token is found in the values of a name when one of them lists it. -/
theorem lists_iff {spelled token : String} {name : HeaderName}
    (named : HeaderName.ofBytes? (Bytes.ofString spelled) = some name) :
    lists head.headers spelled token = true ↔
      ∃ item ∈ listed head name, item.map Char.toLower = token.toList := by
  rw [lists]
  obtain ⟨none, unread⟩ | ⟨some, read⟩ := joinedByText?_eq head named
  · rw [unread, listed, none]
    simp
  · rw [read, listed, ← items_intercalate some]
    simp

/-! ## Each rule as it is judged -/

theorem keeps_upgrade_iff :
    request.Keeps head .upgrade ↔ lists head.headers "upgrade" "websocket" = true := by
  have named : HeaderName.ofBytes? (Bytes.ofString "upgrade") = some upgradeName := by decide
  exact (lists_iff named).symm

theorem keeps_connection_iff :
    request.Keeps head .connection ↔ lists head.headers "connection" "upgrade" = true := by
  have named : HeaderName.ofBytes? (Bytes.ofString "connection") = some connectionName := by decide
  exact (lists_iff named).symm

/-- A digest is five words of four bytes. -/
theorem length_digest (message : Bytes) : (Digest.Sha1.digest message).length = 20 := by
  simp [Digest.Sha1.digest]

theorem expectedAccept_ne_empty (request : UpgradeRequest) : request.expectedAccept ≠ "" := by
  intro empty
  have length := Text.Base64.length_encode
    (Digest.Sha1.digest (Bytes.ofString (request.key ++ acceptSalt)))
  rw [length_digest] at length
  change request.expectedAccept.length = 28 at length
  rw [empty] at length
  cases length

/-- Without any value there is nothing that could be the proof. -/
theorem keeps_accept_iff :
    request.Keeps head .accept ↔
      (head.headers.joinedByText? "sec-websocket-accept").map (fun value =>
        String.ofList (Text.trim value.toList)) = some request.expectedAccept := by
  change String.ofList (Text.trim (String.intercalate ", " (texts head acceptName)).toList) =
    request.expectedAccept ↔ _
  have named : HeaderName.ofBytes? (Bytes.ofString "sec-websocket-accept") = some acceptName := by
    decide
  obtain ⟨none, unread⟩ | ⟨-, read⟩ := joinedByText?_eq head named
  · rw [none, unread]
    have empty : String.ofList (Text.trim (String.intercalate ", " []).toList) = "" := by decide
    rw [empty]
    simpa using (expectedAccept_ne_empty request).symm
  · rw [read, Option.map_some, Option.some_inj]

/-- Keeping the rules in front of the last one is agreeing in all but the subprotocol. -/
theorem agrees_iff :
    request.Agrees head ↔ request.Keeps head .status ∧ request.Keeps head .upgrade ∧
      request.Keeps head .connection ∧ request.Keeps head .accept := by
  rw [keeps_upgrade_iff, keeps_connection_iff, keeps_accept_iff]
  constructor
  · exact fun agrees => ⟨agrees.status, agrees.upgrade, agrees.connection, agrees.accept⟩
  · exact fun ⟨status, upgrade, connection, accept⟩ => ⟨status, upgrade, connection, accept⟩

/-- The first offer that was asked for, and those in front of it. -/
theorem find?_offers_iff {requested : List String} {offers : List (List Char)} {name : String} :
    (offers.map String.ofList).find? requested.contains = some name ↔
      name ∈ requested ∧ ∃ before after, offers = before ++ name.toList :: after ∧
        ∀ item ∈ before, String.ofList item ∉ requested := by
  rw [List.find?_map, Option.map_eq_some_iff]
  constructor
  · rintro ⟨item, found, rfl⟩
    obtain ⟨asked, before, after, whole, earlier⟩ := List.find?_eq_some_iff_append.mp found
    refine ⟨by simpa using asked, before, after, by rwa [String.toList_ofList], ?_⟩
    exact fun item member => by simpa using earlier item member
  · rintro ⟨asked, before, after, whole, earlier⟩
    refine ⟨name.toList, List.find?_eq_some_iff_append.mpr ⟨?_, before, after, whole, ?_⟩,
      String.ofList_toList⟩
    · simpa using asked
    · exact fun item member => by simpa using earlier item member

/-- What is chosen is the first offer that was asked for, if no offer is blank. -/
theorem negotiate_eq_ok_iff_listed {requested : List String} {name : String} :
    negotiate requested head.headers = .ok name ↔
      texts head protocolName ≠ [] ∧ [] ∉ listed head protocolName ∧
        name ∈ requested ∧ ∃ before after,
          listed head protocolName = before ++ name.toList :: after ∧
            ∀ item ∈ before, String.ofList item ∉ requested := by
  rw [negotiate_eq_ok_iff]
  obtain ⟨none, unread⟩ | ⟨some, read⟩ := joinedByText?_eq head ofBytes?_protocol
  · rw [Headers.joinedByText?, ofBytes?_protocol, Option.bind_some] at unread
    simp [none, unread]
  · rw [Headers.joinedByText?, ofBytes?_protocol, Option.bind_some] at read
    rw [listed, ← items_intercalate some, ← find?_offers_iff, read]
    simp [some]

/-- There is one fault of offers, whatever is wrong with them. -/
theorem error_of_negotiate {requested : List String} {headers : Headers} {cause : UpgradeError}
    (failed : negotiate requested headers = .error cause) : cause = .subprotocol := by
  unfold negotiate at failed
  dsimp only at failed
  split at failed
  · cases failed
    rfl
  · split at failed
    · cases failed
      rfl
    · split at failed
      · cases failed
      · cases failed
        rfl

/-! ## The judgement -/

/-- Where the rule on subprotocols is kept, something is to be agreed on. -/
theorem exists_isAgreed (kept : request.Keeps head .subprotocol) :
    ∃ agreed, request.IsAgreed head agreed := by
  by_cases asked : request.subprotocols = []
  · exact ⟨none, asked⟩
  · obtain ⟨-, -, item, member, requested⟩ := kept asked
    have found : (((listed head protocolName).map String.ofList).find?
        request.subprotocols.contains).isSome := by
      simpa using ⟨item, member, requested⟩
    obtain ⟨name, found⟩ := Option.isSome_iff_exists.mp found
    exact ⟨some name, asked, find?_offers_iff.mp found⟩

/-- An answer is accepted when it keeps all rules, and then there is one thing to agree on. -/
theorem verify_eq_ok_iff_keeps {agreed : Option String} :
    request.verify head = .ok agreed ↔
      (∀ rule, request.Keeps head rule) ∧ request.IsAgreed head agreed := by
  rw [verify_eq_ok_iff, agrees_iff]
  constructor
  · rintro ⟨⟨status, upgrade, connection, accept⟩, chosen⟩
    have subprotocol : request.Keeps head .subprotocol ∧ request.IsAgreed head agreed := by
      obtain ⟨noneAsked, rfl⟩ | ⟨asked, name, chosen, rfl⟩ := chosen
      · exact ⟨absurd noneAsked, noneAsked⟩
      · obtain ⟨there, solid, requested, before, after, whole, earlier⟩ :=
          negotiate_eq_ok_iff_listed.mp chosen
        have member : name.toList ∈ listed head protocolName := by
          simp [whole]
        exact ⟨fun _ => ⟨there, solid, name.toList, member, by rwa [String.ofList_toList]⟩,
          asked, requested, before, after, whole, earlier⟩
    refine ⟨fun rule => ?_, subprotocol.2⟩
    cases rule with
    | status => exact status
    | upgrade => exact upgrade
    | connection => exact connection
    | accept => exact accept
    | subprotocol => exact subprotocol.1
  · rintro ⟨kept, isAgreed⟩
    refine ⟨⟨kept .status, kept .upgrade, kept .connection, kept .accept⟩, ?_⟩
    cases agreed with
    | none => exact .inl ⟨isAgreed, rfl⟩
    | some name =>
      obtain ⟨asked, first⟩ := isAgreed
      obtain ⟨there, solid, -⟩ := kept .subprotocol asked
      exact .inr ⟨asked, name, negotiate_eq_ok_iff_listed.mpr ⟨there, solid, first⟩, rfl⟩

/-- The first rule that is broken makes the fault. -/
theorem verify_of_first_broken {rule : Rule} (broken : ¬ request.Keeps head rule)
    (kept : ∀ earlier : Rule, earlier.place < rule.place → request.Keeps head earlier) :
    request.verify head = .error (rule.error head) := by
  cases rule with
  | status =>
    exact if_pos broken
  | upgrade =>
    have status : head.status = 101 := kept .status (by decide)
    rw [keeps_upgrade_iff] at broken
    simp [verify, status, broken, Rule.error]
  | connection =>
    have status : head.status = 101 := kept .status (by decide)
    have upgrade := keeps_upgrade_iff.mp (kept .upgrade (by decide))
    rw [keeps_connection_iff] at broken
    simp [verify, status, upgrade, broken, Rule.error]
  | accept =>
    have status : head.status = 101 := kept .status (by decide)
    have upgrade := keeps_upgrade_iff.mp (kept .upgrade (by decide))
    have connection := keeps_connection_iff.mp (kept .connection (by decide))
    rw [keeps_accept_iff] at broken
    simp [verify, status, upgrade, connection, broken, Rule.error]
  | subprotocol =>
    have asked : request.subprotocols ≠ [] := fun noneAsked => broken (absurd noneAsked)
    have agrees : request.Agrees head := agrees_iff.mpr ⟨kept .status (by decide),
      kept .upgrade (by decide), kept .connection (by decide), kept .accept (by decide)⟩
    cases chosen : negotiate request.subprotocols head.headers with
    | ok name =>
      have accepted := verify_eq_ok_iff.mpr ⟨agrees, .inr ⟨asked, name, chosen, rfl⟩⟩
      exact absurd ((verify_eq_ok_iff_keeps.mp accepted).1 .subprotocol) broken
    | error cause =>
      obtain rfl := error_of_negotiate chosen
      simp [verify, agrees.status, agrees.upgrade, agrees.connection, agrees.accept, asked, chosen,
        Except.map, Rule.error]

/-- Of the rules that are broken one comes first. -/
theorem exists_first_broken (broken : ¬ ∀ rule, request.Keeps head rule) :
    ∃ rule, ¬ request.Keeps head rule ∧
      ∀ earlier : Rule, earlier.place < rule.place → request.Keeps head earlier := by
  obtain ⟨rule, isBroken, least⟩ := (measure Rule.place).wf.has_min
    {rule | ¬ request.Keeps head rule} (not_forall.mp broken)
  exact ⟨rule, isBroken, fun earlier before => not_not.mp fun other => least earlier other before⟩

/-- An answer is accepted exactly when it keeps all rules. Then what is agreed on is nothing if
nothing was asked for, otherwise the first that is listed of those that were asked for. The fault of
any other answer is that of the first rule that it breaks. -/
theorem verify_judges (request : UpgradeRequest) (head : ResponseHead) :
    ((∃ agreed, request.verify head = .ok agreed) ↔ ∀ rule, request.Keeps head rule) ∧
    (∀ agreed, request.verify head = .ok agreed ↔
      (∀ rule, request.Keeps head rule) ∧ request.IsAgreed head agreed) ∧
    ∀ error, request.verify head = .error error ↔
      ∃ rule, ¬ request.Keeps head rule ∧
        (∀ earlier : Rule, earlier.place < rule.place → request.Keeps head earlier) ∧
        error = rule.error head := by
  refine ⟨⟨?_, fun kept => ?_⟩, fun agreed => verify_eq_ok_iff_keeps, fun error => ⟨?_, ?_⟩⟩
  · rintro ⟨agreed, accepted⟩
    exact (verify_eq_ok_iff_keeps.mp accepted).1
  · obtain ⟨agreed, isAgreed⟩ := exists_isAgreed (kept .subprotocol)
    exact ⟨agreed, verify_eq_ok_iff_keeps.mpr ⟨kept, isAgreed⟩⟩
  · intro failed
    have broken : ¬ ∀ rule, request.Keeps head rule := by
      intro kept
      obtain ⟨agreed, isAgreed⟩ := exists_isAgreed (kept .subprotocol)
      rw [verify_eq_ok_iff_keeps.mpr ⟨kept, isAgreed⟩] at failed
      cases failed
    obtain ⟨rule, broken, kept⟩ := exists_first_broken broken
    rw [verify_of_first_broken broken kept] at failed
    exact ⟨rule, broken, kept, (Except.error.inj failed).symm⟩
  · rintro ⟨rule, broken, kept, rfl⟩
    exact verify_of_first_broken broken kept

/-- Tokens may stand among others, in any letters and with blanks around them, and the subprotocol
that is listed first is agreed on. -/
example :
    let request : UpgradeRequest := ⟨"/", [], "dGhlIHNhbXBsZSBub25jZQ==", ["a", "b"]⟩
    let headers := Headers.ofList [
      (upgradeName, ⟨Bytes.ofString " h2c , WebSocket\t", by decide⟩),
      (connectionName, ⟨Bytes.ofString "\tUpgrade ,keep-alive ", by decide⟩),
      (acceptName, ⟨Bytes.ofString " s3pPLMBiTxaQ9kYGzzhZRbK+xOo= ", by decide⟩),
      (protocolName, ⟨Bytes.ofString " c , b", by decide⟩),
      (protocolName, ⟨Bytes.ofString "a ", by decide⟩)]
    request.verify ⟨101, "", headers⟩ = .ok (some "b") := by
  decide +kernel

end UpgradeRequest

end WebSocket
