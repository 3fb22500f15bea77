import WebSocket.Proofs.Connection.Outgoing

/-! # What the peer puts together is what was sent

The peer decodes the bytes behind the request and passes the frames through message assembly. For
users who send whole messages and pings only, this gives their messages and nothing else: the frames
of one write leave assembly as they found it (`Delivers`), so that writes can be looked at one by
one, and of all writes only those that carry out an order deliver a message.
-/

namespace WebSocket

/-! ## Passing frames through assembly -/

namespace Assembly

/-- Passes frames through assembly and collects what comes out, up to the first violation. -/
def pushAll (assembly : Assembly) : List Frame → Except Violation (List Frame) × Assembly
  | [] => (.ok [], assembly)
  | frame :: frames =>
    match assembly.push frame with
    | (.error cause, after) => (.error cause, after)
    | (.ok message, after) =>
      let (outcome, last) := after.pushAll frames
      (outcome.map (message.toList ++ ·), last)

theorem pushAll_append {assembly middle last : Assembly} {early late first second : List Frame}
    (before : assembly.pushAll early = (.ok first, middle))
    (after : middle.pushAll late = (.ok second, last)) :
    assembly.pushAll (early ++ late) = (.ok (first ++ second), last) := by
  induction early generalizing assembly first with
  | nil =>
    cases before
    exact after
  | cons frame early ih =>
    simp only [pushAll] at before
    rw [List.cons_append, pushAll]
    cases pushed : assembly.push frame with
    | mk outcome next =>
      rw [pushed] at before
      cases outcome with
      | error cause => cases before
      | ok message =>
        dsimp only at before ⊢
        cases rest : next.pushAll early with
        | mk outcome end_ =>
          rw [rest] at before
          cases outcome with
          | error cause => cases before
          | ok messages =>
            cases before
            rw [ih rest]
            simp [Except.map]

end Assembly

/-- The frame as it was before it was masked. -/
def Frame.bare (frame : Frame) : Frame :=
  { frame with mask := none }

/-- Assembly does not look at masks. -/
theorem Assembly.push_bare (assembly : Assembly) (frame : Frame) :
    assembly.push frame.bare =
      ((assembly.push frame).1.map (Option.map Frame.bare), (assembly.push frame).2) := by
  obtain ⟨fin, rsv1, rsv2, rsv3, opcode, mask, payload⟩ := frame
  unfold push
  cases opcode with
  | close | ping | pong => rfl
  | text | binary =>
    dsimp only [Frame.bare]
    by_cases inside : assembly.opener.isSome = true
    · simp only [if_pos inside]
      rfl
    · simp only [if_neg inside]
      cases fin with
      | true => rfl
      | false =>
        generalize Assembly.collect .. = collected
        obtain ⟨outcome, after⟩ := collected
        cases outcome <;> rfl
  | continuation =>
    dsimp only [Frame.bare]
    cases assembly.opener with
    | none => rfl
    | some opened =>
      dsimp only
      generalize assembly.collect payload = collected
      obtain ⟨outcome, after⟩ := collected
      cases outcome with
      | error cause => rfl
      | ok done => cases fin <;> rfl

theorem Assembly.pushAll_bare (assembly : Assembly) (frames : List Frame) :
    assembly.pushAll (frames.map Frame.bare) =
      ((assembly.pushAll frames).1.map (List.map Frame.bare), (assembly.pushAll frames).2) := by
  induction frames generalizing assembly with
  | nil => rfl
  | cons frame frames ih =>
    rw [List.map_cons, pushAll, pushAll, push_bare]
    cases pushed : assembly.push frame with
    | mk outcome after =>
      cases outcome with
      | error cause => rfl
      | ok message =>
        simp only [Except.map, ih]
        cases rest : after.pushAll frames with
        | mk outcome last => cases outcome <;> cases message <;> rfl

/-! ## Messages -/

/-- The data messages among what comes out of assembly: their opcodes and payloads. -/
def dataOf (messages : List Frame) : List (OpCode × Bytes) :=
  (messages.filter (!·.opcode.isControl)).map fun message => (message.opcode, message.payload)

theorem dataOf_append (first second : List Frame) :
    dataOf (first ++ second) = dataOf first ++ dataOf second := by
  simp [dataOf]

theorem dataOf_bare (messages : List Frame) :
    dataOf (messages.map Frame.bare) = dataOf messages := by
  simp [dataOf, List.filter_map, Function.comp_def, Frame.bare]

/-- Frames that make up whole messages and control frames, and deliver this data. -/
def Delivers (limit : Nat) (frames : List Frame) (data : List (OpCode × Bytes)) : Prop :=
  ∃ messages, (Assembly.empty limit).pushAll frames = (.ok messages, .empty limit) ∧
    dataOf messages = data

namespace Delivers

variable {limit : Nat}

theorem nothing (limit : Nat) : Delivers limit [] [] := ⟨[], rfl, rfl⟩

theorem append {early late : List Frame} {first second : List (OpCode × Bytes)}
    (before : Delivers limit early first) (after : Delivers limit late second) :
    Delivers limit (early ++ late) (first ++ second) := by
  obtain ⟨messages, pushed, rfl⟩ := before
  obtain ⟨later, pushedLater, rfl⟩ := after
  exact ⟨_, Assembly.pushAll_append pushed pushedLater, dataOf_append ..⟩

/-- Control frames deliver no data. -/
theorem control {frame : Frame} (control : frame.opcode.isControl = true) (limit : Nat) :
    Delivers limit [frame] [] := by
  refine ⟨[frame], ?_, by simp [dataOf, control]⟩
  cases opcode : frame.opcode with
  | close | ping | pong => simp [Assembly.pushAll, Assembly.push, opcode, Except.map]
  | continuation | text | binary =>
    rw [opcode] at control
    cases control

theorem controls {frames : List Frame}
    (control : ∀ frame ∈ frames, frame.opcode.isControl = true) (limit : Nat) :
    Delivers limit frames [] := by
  induction frames with
  | nil => exact .nothing limit
  | cons frame frames ih =>
    obtain ⟨first, rest⟩ := List.forall_mem_cons.mp control
    exact (Delivers.control first limit).append (ih rest)

theorem flatMap {α : Type} {items : List α} {frames : α → List Frame}
    {data : α → Option (OpCode × Bytes)}
    (each : ∀ item ∈ items, Delivers limit (frames item) (data item).toList) :
    Delivers limit (items.flatMap frames) (items.filterMap data) := by
  induction items with
  | nil => exact .nothing limit
  | cons item items ih =>
    obtain ⟨first, rest⟩ := List.forall_mem_cons.mp each
    have both := first.append (ih rest)
    rw [List.flatMap_cons]
    cases given : data item with
    | none =>
      rwa [given, Option.toList_none, List.nil_append, ← List.filterMap_cons_none given] at both
    | some message =>
      rwa [given, Option.toList_some, List.singleton_append,
        ← List.filterMap_cons_some given] at both

/-- Masks do not change what is delivered. -/
theorem of_bare {frames sent : List Frame} {data : List (OpCode × Bytes)}
    (delivers : Delivers limit sent data) (same : frames.map Frame.bare = sent.map Frame.bare) :
    Delivers limit frames data := by
  obtain ⟨messages, pushed, rfl⟩ := delivers
  have sentBare := (Assembly.empty limit).pushAll_bare sent
  have framesBare := (Assembly.empty limit).pushAll_bare frames
  rw [same, sentBare, pushed] at framesBare
  cases whole : (Assembly.empty limit).pushAll frames with
  | mk outcome last =>
    rw [whole] at framesBare
    cases outcome with
    | error cause => simp [Except.map] at framesBare
    | ok others =>
      simp only [Except.map, Prod.mk.injEq, Except.ok.injEq] at framesBare
      obtain ⟨bare, rfl⟩ := framesBare
      exact ⟨others, whole, by rw [← dataOf_bare, ← bare, dataOf_bare]⟩

end Delivers

/-- Later fragments complete the message that is open. -/
theorem Assembly.pushAll_laterFragments {assembly : Assembly} {opened : OpCode}
    (opens : assembly.opener = some opened) {parts : List Bytes} (some_ : parts ≠ [])
    (fits : (assembly.collected ++ parts.flatten).length < assembly.limit) :
    assembly.pushAll (Frame.laterFragments parts) =
      (.ok [{ opcode := opened, payload := assembly.collected ++ parts.flatten }],
        .empty assembly.limit) := by
  fun_induction Frame.laterFragments parts generalizing assembly with
  | case1 => exact absurd rfl some_
  | case2 part =>
    rw [List.flatten_singleton] at fits ⊢
    simp only [pushAll, push, Frame.fragment, opens, collect_of_lt fits, if_true,
      collected_extend]
    rfl
  | case3 part parts more ih =>
    have fitsPart : (assembly.collected ++ part).length < assembly.limit := by
      simp only [List.flatten_cons, List.length_append] at fits ⊢
      omega
    have rest := @ih (assembly.extend part) opens more (by
      rwa [collected_extend, List.append_assoc, ← List.flatten_cons])
    have pushed : assembly.push (.fragment .continuation .none part) =
        (.ok none, assembly.extend part) := by
      simp [push, Frame.fragment, opens, collect_of_lt fitsPart]
    rw [collected_extend, List.append_assoc, ← List.flatten_cons] at rest
    rw [pushAll, pushed]
    dsimp only
    rw [rest]
    rfl

/-- A data frame that is final by itself is a message. -/
theorem Delivers.single {opcode : OpCode} (data : opcode = .text ∨ opcode = .binary)
    (payload : Bytes) (limit : Nat) :
    Delivers limit [{ opcode, payload }] [(opcode, payload)] := by
  refine ⟨[{ opcode, payload }], ?_, ?_⟩
  · rcases data with rfl | rfl <;> rfl
  · rcases data with rfl | rfl <;> rfl

/-- The fragments of a message deliver its opcode and its parts in one piece. -/
theorem Delivers.fragments {opcode : OpCode} (data : opcode = .text ∨ opcode = .binary)
    {parts : List Bytes} (some_ : parts ≠ []) {limit : Nat}
    (fits : parts.flatten.length < limit) :
    Delivers limit (Frame.fragments opcode parts) [(opcode, parts.flatten)] := by
  unfold Frame.fragments
  split
  · exact absurd rfl some_
  · next part =>
    have whole : Frame.fragment opcode .none part = { opcode, payload := part } := by
      rcases data with rfl | rfl <;> rfl
    rw [whole, List.flatten_singleton]
    exact .single data part limit
  · next part parts more =>
    let opening : Assembly := { Assembly.empty limit with opener := some opcode }
    have fitsPart : (opening.collected ++ part).length < opening.limit := by
      rw [List.flatten_cons, List.length_append] at fits
      exact (Nat.le_add_right ..).trans_lt fits
    have pushed : (Assembly.empty limit).push (.fragment opcode .first part) =
        (.ok none, opening.extend part) := by
      have collected := Assembly.collect_of_lt fitsPart
      rcases data with rfl | rfl <;>
        exact congrArg (fun collected : Except Violation Unit × Assembly =>
          (collected.1.map fun _ => none, collected.2)) collected
    have rest := @Assembly.pushAll_laterFragments (opening.extend part) opcode rfl parts more (by
      rwa [Assembly.collected_extend, List.append_assoc, ← List.flatten_cons])
    rw [Assembly.collected_extend, List.append_assoc, ← List.flatten_cons] at rest
    refine ⟨_, by rw [Assembly.pushAll, pushed]; dsimp only; rw [rest]; rfl, ?_⟩
    rcases data with rfl | rfl <;> rfl

/-! ## Calls -/

namespace Call

/-- Whether a call sends a whole message or a ping. -/
def isWhole : Call → Bool
  | text _ | binary _ | textParts _ | binaryParts _ | ping _ => true
  | textFragment .. | binaryFragment .. | close _ => false

/-- The message that a call sends, if it sends a whole one. -/
def message? : Call → Option (OpCode × Bytes)
  | text body => some (.text, Bytes.ofString body)
  | binary data => some (.binary, data)
  | textParts parts =>
    if parts.isEmpty then none else some (.text, (parts.map Bytes.ofString).flatten)
  | binaryParts parts => if parts.isEmpty then none else some (.binary, parts.flatten)
  | textFragment .. | binaryFragment .. | ping _ | close _ => none

/-- What a call asks to be written delivers its message. -/
theorem delivers {call : Call} (whole : call.isWhole = true) {limit : Nat}
    (fits : ∀ message, call.message? = some message → message.2.length < limit) :
    Delivers limit call.order.frames call.message?.toList := by
  cases call with
  | text body => exact .single (.inl rfl) _ limit
  | binary data => exact .single (.inr rfl) _ limit
  | textParts parts =>
    cases parts with
    | nil => exact .nothing limit
    | cons part parts =>
      exact .fragments (.inl rfl) (List.cons_ne_nil _ _) (fits _ rfl)
  | binaryParts parts =>
    cases parts with
    | nil => exact .nothing limit
    | cons part parts =>
      exact .fragments (.inr rfl) (List.cons_ne_nil _ _) (fits _ rfl)
  | ping data => exact .control rfl limit
  | textFragment | binaryFragment | close => cases whole

/-- A call for which nothing needs to be done sends no message. -/
theorem message?_of_nothing {call : Call} (nothing : call.order = .send []) :
    call.message? = none := by
  have none (opcode : OpCode) (parts : List Bytes)
      (same : Order.send (Frame.fragments opcode parts) = .send []) : parts = [] := by
    have size := congrArg List.length (Order.send.inj same)
    rwa [Frame.length_fragments, List.length_nil, List.length_eq_zero_iff] at size
  cases call with
  | textParts parts =>
    have empty := none _ _ nothing
    rw [List.map_eq_nil_iff] at empty
    rw [message?, empty]
    rfl
  | binaryParts parts =>
    have empty := none _ _ nothing
    rw [message?, empty]
    rfl
  | _ => cases nothing

end Call

namespace Connection

variable {connection : Connection} {url : Url} {options : Options} {nonce : Bytes}
  {keys : Nat → MaskKey} {inputs : List Input} {calls : List MadeCall} {attempts : List Attempt}
  {dropped : List Command} {limit : Nat}

/-! ## The messages of a run -/

/-- The messages of the calls that were answered with success, in the order of the calls. -/
def grantedMessages (connection : Connection) (calls : List Call) : List (OpCode × Bytes) :=
  calls.zipIdx.filterMap fun (call, id) => if connection.isGranted id then call.message? else none

/-- The message of the call that placed an order. -/
def orderedMessage? (calls : List MadeCall) (command : Command) : Option (OpCode × Bytes) :=
  calls[command.id]?.bind (·.call.message?)

/-- A call that is answered with success at once sends no message. -/
theorem message?_of_answer? {made : MadeCall} {id : Nat}
    (given : made.answer? id = some ⟨id, none⟩) : made.call.message? = none := by
  refine Call.message?_of_nothing ?_
  unfold MadeCall.answer? Call.check at given
  cases misuse : made.call.misuse? with
  | some error => simp [misuse] at given
  | none =>
    cases connected : made.connected with
    | false => simp [misuse, connected] at given
    | true =>
      by_contra some
      simp [misuse, connected, some] at given

/-- The messages of the orders that were answered with success are those of the calls. -/
theorem Audit.grantedMessages_eq (audit : Audit calls attempts dropped connection) :
    ((MadeCall.orders calls).filter (connection.isGranted ·.id)).filterMap (orderedMessage? calls) =
      connection.grantedMessages (calls.map MadeCall.call) := by
  rw [grantedMessages, List.zipIdx_map, List.filterMap_map, MadeCall.orders, List.filter_filterMap,
    List.filterMap_filterMap]
  refine List.filterMap_congr ?_
  rintro ⟨made, id⟩ entry
  dsimp only [Function.comp_apply, Prod.map_apply, id_eq]
  rcases made.order?_or_answer? id with ⟨order, placed, -⟩ | ⟨error, notPlaced, given⟩
  · have message : orderedMessage? calls ⟨id, order⟩ = made.call.message? := by
      rw [orderedMessage?, List.mem_zipIdx_iff_getElem?.mp entry]
      rfl
    rw [placed]
    by_cases granted : connection.isGranted id = true <;> simp [Option.filter, granted, message]
  · rw [notPlaced]
    by_cases granted : connection.isGranted id = true
    · have answered : ⟨id, error⟩ ∈ connection.callers.answers := by
        rw [Array.mem_def, audit.answers.mem_iff, List.append_assoc]
        exact List.mem_append_left _ (List.mem_filterMap.mpr ⟨(made, id), entry, given⟩)
      cases audit.answer_unique answered (isGranted_iff.mp granted) rfl
      rw [if_pos granted, message?_of_answer? given]
      rfl
    · rw [if_neg granted]
      rfl

/-- What a write puts on the wire delivers the message of its order, if it carries out one that
succeeds, and nothing else. -/
theorem Audit.delivers (audit : Audit calls attempts dropped connection)
    (whole : ∀ made ∈ calls, made.call.isWhole = true)
    (fits : ∀ made ∈ calls, ∀ message, made.call.message? = some message →
      message.2.length < limit)
    (proper : ∀ attempt ∈ attempts, connection.WritesProper attempt.job) {attempt : Attempt}
    (member : attempt ∈ attempts) :
    Delivers limit (connection.framesOnWire attempt)
      ((attempt.order?.filter (connection.isGranted ·.id)).bind
        (orderedMessage? calls)).toList := by
  cases order : attempt.order? with
  | none =>
    refine .controls (fun frame sent => ?_) limit
    exact ((proper attempt member).of_framesOnWire sent).control order
  | some command =>
    have placed : command ∈ MadeCall.orders calls := by
      rw [audit.orders, List.append_assoc]
      exact List.mem_append_left _ (List.mem_filterMap.mpr ⟨attempt, member, order⟩)
    obtain ⟨made, entry, -, ordered⟩ := MadeCall.of_mem_orders placed
    have called := List.mem_of_getElem? entry
    have granted := audit.isGranted_iff_of_order member order
    have frames := Job.framesOf_of_order order connection
    have delivers := made.call.delivers (whole made called) (fits made called)
    have message : orderedMessage? calls command = made.call.message? := by
      rw [orderedMessage?, entry]
      rfl
    rw [← ordered, ← frames] at delivers
    cases failed : attempt.error with
    | none => simpa [framesOnWire, failed, granted, message, Option.filter] using delivers
    | some cause => simpa [framesOnWire, failed, granted, Option.filter] using .nothing limit

/-- The frames on the wire with the keys that hide them. -/
def keyedFrames (connection : Connection) : List (Frame × Option MaskKey) :=
  connection.written.toList.filterMap fun
    | .request _ => none
    | .frame key sent => some (sent, some key)

theorem map_keyedFrames (connection : Connection) :
    connection.keyedFrames.map Prod.fst = connection.sentFrames := by
  rw [keyedFrames, sentFrames, List.map_filterMap]
  refine List.filterMap_congr fun written _ => ?_
  cases written <;> rfl

theorem frameBytes_eq (connection : Connection) :
    connection.frameBytes = connection.keyedFrames.flatMap fun entry => entry.1.form entry.2 := by
  unfold frameBytes keyedFrames
  induction connection.written.toList with
  | nil => rfl
  | cons written later ih =>
    cases written with
    | request sent => exact ih
    | frame key sent =>
      have same := sent.masked_eq_form .littleEndian key
      simp only [List.filter_cons, Written.frame?, Option.isSome_some, if_true, List.flatMap_cons,
        List.filterMap_cons, Written.bytes, same]
      exact congrArg (_ ++ ·) ih

/-- The peer of users who send whole messages and pings only decodes every frame and puts together
exactly the messages of the calls that were answered with success. -/
theorem Reaches.wire_delivers (valid : options.validate = .ok ())
    (reaches : Reaches (attach url options nonce keys) inputs connection)
    (whole : ∀ call ∈ callsIn inputs, call.isWhole = true) (payloadLimit messageLimit : Nat)
    (payloads : ∀ frame ∈ connection.sentFrames,
      frame.payload.length < payloadLimit ∧ frame.payload.length ≤ Frame.maxPayload)
    (messages : ∀ call ∈ callsIn inputs, ∀ message, call.message? = some message →
      message.2.length < messageLimit) :
    connection.wire = connection.requestBytes ++ connection.frameBytes ∧
      ∃ frames,
        ({ limit := payloadLimit } : Decoder).exhaust connection.frameBytes =
          { results := frames.map .ok, decoder := { limit := payloadLimit } } ∧
        Delivers messageLimit frames (connection.grantedMessages (callsIn inputs)) := by
  refine ⟨reaches.wire_eq, connection.keyedFrames.map fun entry => { entry.1 with mask := entry.2 },
    ?_, ?_⟩
  · have legal : ∀ entry ∈ connection.keyedFrames, entry.1.IsLegal payloadLimit := by
      intro entry member
      have sent : entry.1 ∈ connection.sentFrames := by
        rw [← map_keyedFrames]
        exact List.mem_map_of_mem member
      obtain ⟨size, announceable⟩ := payloads _ sent
      exact (reaches.isProper_sentFrames valid _ sent).isLegal size announceable
    rw [frameBytes_eq, Frame.exhaust_forms _ legal, List.map_map]
    rfl
  · obtain ⟨calls, attempts, records⟩ := reaches.exists_records
    obtain ⟨dropped, audit⟩ := records.audit
    have made : ∀ made ∈ calls, made.call ∈ callsIn inputs := by
      rw [← records.map_call]
      exact fun made member => List.mem_map_of_mem member
    have each := fun attempt member => @Audit.delivers _ _ _ _ messageLimit audit
      (fun entry member => whole _ (made entry member))
      (fun entry member => messages _ (made entry member)) (records.writesProper valid) attempt
      member
    have delivers := Delivers.flatMap each
    rw [← audit.sent, ← List.filterMap_filterMap, ← List.filter_filterMap, ← audit.filter_granted,
      audit.grantedMessages_eq, records.map_call] at delivers
    refine delivers.of_bare ?_
    rw [← map_keyedFrames, List.map_map, List.map_map]
    rfl

/-- A message in two parts, one without parts, a ping, and the pong for a ping of the server. -/
theorem wire_delivers_parts :
    let inputs := [.arrive (agreement ++ [0x89, 0x01, 0x70]), .call (.text "early")]
    let opened := (inputs.foldl apply plainStart).stepUpTo 2
    let more := [.call (.textParts ["a", "bc"]), .call (.binaryParts []), .call (.ping [0x78]),
      .call (.binary [0x07])]
    let sent := (more.foldl apply opened).stepUpTo 20
    ({} : Options).validate = .ok () ∧ Reaches plainStart (inputs ++ more) sent ∧
      (∀ call ∈ callsIn (inputs ++ more), call.isWhole = true) ∧
      (∀ frame ∈ sent.sentFrames,
        frame.payload.length < 6 ∧ frame.payload.length ≤ Frame.maxPayload) ∧
      (∀ call ∈ callsIn (inputs ++ more), ∀ message, call.message? = some message →
        message.2.length < 6) ∧
      sent.grantedMessages (callsIn (inputs ++ more)) =
        [(.text, [0x61, 0x62, 0x63]), (.binary, [0x07])] ∧
      sent.wire = sent.requestBytes ++ sent.frameBytes ∧
      ∃ frames,
        ({ limit := 6 } : Decoder).exhaust sent.frameBytes =
          { results := frames.map .ok, decoder := { limit := 6 } } ∧
        Delivers 6 frames (sent.grantedMessages (callsIn (inputs ++ more))) := by
  intro inputs opened more sent
  have valid : ({} : Options).validate = .ok () := rfl
  have opening : Reaches plainStart inputs opened := (Reaches.start.foldl_apply inputs).stepUpTo 2
  have reaches : Reaches plainStart (inputs ++ more) sent := (opening.foldl_apply more).stepUpTo 20
  obtain ⟨whole, payloads, short, granted⟩ :
      (∀ call ∈ callsIn (inputs ++ more), call.isWhole = true) ∧
        (∀ frame ∈ sent.sentFrames,
          frame.payload.length < 6 ∧ frame.payload.length ≤ Frame.maxPayload) ∧
        (∀ call ∈ callsIn (inputs ++ more), call.message?.all (·.2.length < 6) = true) ∧
        sent.grantedMessages (callsIn (inputs ++ more)) =
          [(.text, [0x61, 0x62, 0x63]), (.binary, [0x07])] := by
    decide +kernel
  have messages : ∀ call ∈ callsIn (inputs ++ more), ∀ message, call.message? = some message →
      message.2.length < 6 := by
    intro call member message sends
    have size := short call member
    rw [sends] at size
    exact of_decide_eq_true size
  exact ⟨valid, reaches, whole, payloads, messages, granted,
    Reaches.wire_delivers valid reaches whole 6 6 payloads messages⟩

end Connection

end WebSocket
