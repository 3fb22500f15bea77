import WebSocket.Onlooker
import WebSocket.Proofs.Connection.Delivery
import WebSocket.Proofs.Connection.Upgrading
import WebSocket.Proofs.Frame.StreamEnd
import WebSocket.Proofs.Request

/-! # What an onlooker makes of a connection

An onlooker makes the same of the bytes of a client however they come in pieces
(`Onlooker.foldl_readOn`). With options in which no free text holds an end of a line he makes out
what the client has written, and nothing else (`Reaches.read_wire`): the request, and each frame
with the key that hides it.
-/

namespace WebSocket

/-! ## Pieces -/

namespace Decoder

variable (decoder : Decoder) (buffer more : Bytes) (done before : List Frame)

theorem go_eq :
    drain.go decoder buffer done =
      match decoder.decode buffer with
      | ⟨.ok (some frame), after, rest⟩ => drain.go after rest (frame :: done)
      | ⟨.ok none, after, rest⟩ => ⟨done.reverse, none, after, rest⟩
      | ⟨.error violation, after, rest⟩ => ⟨done.reverse, some violation, after, rest⟩ := by
  rw [drain.go]
  split <;> simp [*]

/-- The frames before come first and change nothing else. -/
theorem go_append_done :
    drain.go decoder buffer (done ++ before) =
      let drained := drain.go decoder buffer done
      { drained with frames := before.reverse ++ drained.frames } := by
  fun_induction drain.go decoder buffer done with
  | case1 decoder buffer done frame after rest decoded _ ih =>
    rw [go_eq, decoded]
    exact ih
  | case2 decoder buffer done after rest decoded | case3 decoder buffer done _ after rest decoded =>
    rw [go_eq, decoded]
    simp

theorem go_append :
    drain.go decoder (buffer ++ more) done =
      let drained := drain.go decoder buffer done
      match drained.fault with
      | none => drain.go drained.decoder (drained.rest ++ more) drained.frames.reverse
      | some _ => { drained with rest := drained.rest ++ more } := by
  fun_induction drain.go decoder buffer done with
  | case1 decoder buffer done frame after rest decoded _ ih =>
    rw [go_eq, decode_append more (by simp [decoded]), decoded]
    exact ih
  | case2 decoder buffer done after rest decoded =>
    rw [go_eq, decode_resume more (congrArg Decoded.outcome decoded), decoded, ← go_eq]
    simp
  | case3 decoder buffer done violation after rest decoded =>
    rw [go_eq, decode_append more (by simp [decoded]), decoded]
    rfl

/-- A drained buffer goes on with the bytes that follow, unless the decoder stopped at a
violation. -/
theorem drain_append :
    decoder.drain (buffer ++ more) =
      let early := decoder.drain buffer
      match early.fault with
      | none =>
        let late := early.decoder.drain (early.rest ++ more)
        { late with frames := early.frames ++ late.frames }
      | some _ => { early with rest := early.rest ++ more } := by
  unfold drain
  rw [go_append]
  generalize drain.go decoder buffer [] = early
  cases fault : early.fault with
  | some cause => simp [fault]
  | none =>
    have behind := early.decoder.go_append_done (early.rest ++ more) [] early.frames.reverse
    rw [List.nil_append, List.reverse_reverse] at behind
    simp only [fault]
    exact behind

end Decoder

namespace Onlooker

/-- Reads one more piece behind what was made out before. -/
def readOn (seen : List Sighting × Onlooker) (piece : Bytes) : List Sighting × Onlooker :=
  let (later, onlooker) := seen.2.read piece
  (seen.1 ++ later, onlooker)

theorem readOn_readFrames (decoder : Decoder) (buffer more : Bytes) :
    readOn (readFrames decoder buffer) more = readFrames decoder (buffer ++ more) := by
  unfold readFrames
  rw [Decoder.drain_append]
  cases fault : (decoder.drain buffer).fault with
  | some cause => simp [readOn, read, fault]
  | none =>
    simp only [fault, readOn, read, readFrames]
    cases ((decoder.drain buffer).decoder.drain ((decoder.drain buffer).rest ++ more)).fault <;> simp

/-- Reading a piece after another comes to the same as reading both at once. -/
theorem readOn_read (onlooker : Onlooker) (bytes more : Bytes) :
    readOn (onlooker.read bytes) more = onlooker.read (bytes ++ more) := by
  cases onlooker with
  | lost => rfl
  | readingFrames decoder buffer =>
    rw [read, read, readOn_readFrames, List.append_assoc]
  | awaitingRequest buffer =>
    simp only [read, ← List.append_assoc]
    cases found : Http.headLength? (buffer ++ bytes) with
    | none => simp [readOn, read]
    | some length =>
      have fits := (Http.bounds_of_headLength? found).2
      rw [Http.headLength?_append more found]
      simp only [List.splitAt_eq, List.take_append_of_le_length fits,
        List.drop_append_of_le_length fits, ← readOn_readFrames]
      rfl

/-- However the bytes are cut into pieces, reading one piece after the other comes to the same as
reading all of them at once. -/
theorem foldl_readOn (onlooker : Onlooker) (bytes : Bytes) (pieces : List Bytes) :
    pieces.foldl readOn (onlooker.read bytes) = onlooker.read (bytes ++ pieces.flatten) := by
  induction pieces generalizing bytes with
  | nil => rw [List.foldl_nil, List.flatten_nil, List.append_nil]
  | cons piece pieces ih =>
    rw [List.foldl_cons, readOn_read, ih, List.flatten_cons, List.append_assoc]

/-- Legal frames are made out with their keys. -/
theorem readFrames_forms (frames : List (Frame × Option MaskKey))
    (legal : ∀ entry ∈ frames, entry.1.IsLegal (Frame.maxPayload + 1)) :
    (readFrames decoder (frames.flatMap fun entry => entry.1.form entry.2)).1 =
      frames.map fun entry => .frame { entry.1 with mask := entry.2 } := by
  have given := decoder.drain_eq (frames.flatMap fun entry => entry.1.form entry.2)
  have keyed : frames.map (fun entry => (.ok { entry.1 with mask := entry.2 } : Except Violation _))
      = (frames.map fun entry => { entry.1 with mask := entry.2 }).map .ok := by
    rw [List.map_map]
    rfl
  rw [decoder, Frame.exhaust_forms frames legal, keyed, upToFault_map_ok] at given
  obtain ⟨all, none⟩ := Prod.mk.inj given
  rw [readFrames, decoder, none, all, List.map_map]
  rfl

end Onlooker

/-- What an onlooker is to make out of what was written. -/
def Written.sighting : Written → Sighting
  | request sent => .request sent.bytes
  | frame key sent => .frame { sent with mask := some key }

namespace Connection

variable {connection next : Connection} {items : List StreamItem} {inputs : List Input}

/-! ## The request first -/

/-- A connection that has not asked yet asks, or goes on without having asked, or ends. -/
theorem Advances.rank_of_early (advances : connection.Advances items next)
    (early : 5 ≤ connection.phase.rank) :
    5 ≤ next.phase.rank ∨ next.phase.rank = 0 ∨ next.written ≠ #[] := by
  have still {phase : Phase} (same : connection.phase = phase) : 5 ≤ phase.rank := same ▸ early
  cases advances with
  | cancelsDialing | dialingFails | hostUnfit | cancelsSecuring | securingFails =>
    exact .inr (.inl rfl)
  | upgradeFails => exact .inr (.inl (by simp [Phase.rank]))
  | beginsSecuring => exact .inl (Nat.le_succ 5)
  | opensPlain | opensSecure => exact .inl (Nat.le_refl 5)
  | requests => exact .inr (.inr (by simp))
  | usersRun => exact .inl early
  | readsHead phase | upgrades phase | stops phase | takesSend phase | takesClose phase
  | abandoned phase | pings phase | dropsFrame phase | peerAnswers phase | givesUpPeer phase
  | endsWait phase => exact absurd (still phase) (by simp [Phase.rank])
  | refuses reads | collects reads | answersPing reads | hearsPong reads | peerCloses reads
  | receives reads | loses reads => exact absurd (still reads.running) (by simp [Phase.rank])
  | writes writing | failsToWrite writing =>
    have late := still writing
    rw [Phase.rank] at late
    split at late <;> omega
  | keepsPart listening =>
    obtain reads | ⟨deadline, waiting⟩ := listening
    · exact absurd (still reads.running) (by simp [Phase.rank])
    · exact absurd (still waiting) (by simp [Phase.rank])

/-- A connection that has come further than to ask has made this request before all else. -/
structure Asks (asked : Except SetupError UpgradeRequest) (connection : Connection) : Prop where
  silent : connection.written = #[] → 5 ≤ connection.phase.rank ∨ connection.phase.rank = 0
  first : ∀ first ∈ connection.written.toList.head?,
    ∃ request, asked = .ok request ∧ first = .request request

variable {asked : Except SetupError UpgradeRequest}

theorem Asks.step (asks : connection.Asks asked) (begins : connection.RequestFirst)
    (request : connection.request = asked) (step : connection.step? = some next) :
    next.Asks asked := by
  obtain ⟨items, advances⟩ := advances_of_step? step
  have lower := rank_le_of_step step
  rcases advances.written_cases with
    same | ⟨deadline, sent, requesting, -, composed, same⟩ | ⟨job, writing, same⟩
  · refine ⟨fun silent => ?_, ?_⟩
    · rcases asks.silent (same ▸ silent) with early | ended
      · rcases advances.rank_of_early early with early | ended | wrote
        · exact .inl early
        · exact .inr ended
        · exact absurd silent wrote
      · exact .inr (by omega)
    · rw [same]
      exact asks.first
  · have alone : next.written.toList = [.request sent] := by
      rw [same, begins.nothing (by rw [requesting]; exact Nat.le_refl 5)]
      rfl
    refine ⟨fun silent => ?_, fun first head => ?_⟩
    · rw [silent] at alone
      cases alone
    · rw [alone] at head
      cases head
      exact ⟨sent, request.symm.trans composed, rfl⟩
  · obtain ⟨behind, whole, -⟩ := connection.exists_written_record (connection.framesOf job)
    -- Only a connection that has asked comes to write frames.
    have wrote : connection.written ≠ #[] := by
      intro silent
      have late := asks.silent silent
      rw [writing, Phase.rank] at late
      split at late <;> omega
    obtain ⟨first, later, front⟩ := List.exists_cons_of_ne_nil (mt Array.toList_eq_nil_iff.mp wrote)
    rw [← same, front, List.cons_append] at whole
    refine ⟨fun silent => ?_, ?_⟩
    · rw [silent] at whole
      cases whole
    · rw [whole]
      exact fun other head => asks.first other (by rw [front]; exact head)

variable {url : Url} {options : Options} {nonce : Bytes} {keys : Nat → MaskKey}

theorem Reaches.asks (reaches : Reaches (attach url options nonce keys) inputs connection) :
    connection.Asks (attach url options nonce keys).request := by
  induction reaches with
  | start =>
    refine ⟨fun _ => .inl (Nat.le_refl 5), fun first head => ?_⟩
    rw [written_attach] at head
    cases head
  | step reaches step ih => exact ih.step reaches.requestFirst reaches.request_eq step
  | @apply inputs connection reaches input ih =>
    refine ⟨?_, ?_⟩
    · rw [written_apply, (learns_apply connection input).rank_eq]
      exact ih.silent
    · rw [written_apply]
      exact ih.first

/-! ## What is made out -/

/-- What was written is nothing, or the request that was asked for with the frames behind it. -/
theorem Reaches.map_sighting
    (reaches : Reaches (attach url options nonce keys) inputs connection) :
    connection.written.toList = [] ∨
      ∃ request, (attach url options nonce keys).request = .ok request ∧
        connection.requestBytes = request.bytes ∧
        connection.written.toList.map Written.sighting = .request request.bytes ::
          connection.keyedFrames.map fun entry => .frame { entry.1 with mask := entry.2 } := by
  cases written : connection.written.toList with
  | nil => exact .inl rfl
  | cons head later =>
    obtain ⟨request, composed, rfl⟩ := reaches.asks.first head (by rw [written]; rfl)
    have frames := reaches.requestFirst.frames
    rw [written, List.pairwise_cons] at frames
    refine .inr ⟨request, composed, ?_, ?_⟩
    · rw [requestBytes, written, List.filter_cons_of_pos rfl, filter_of_frames frames.1]
      exact List.append_nil _
    · rw [keyedFrames, written, List.filterMap_cons_none rfl, List.map_filterMap, List.map_cons,
        ← List.filterMap_eq_map]
      refine congrArg _ (List.filterMap_congr fun sent member => ?_)
      have isFrame := frames.1 sent member
      cases sent with
      | request => cases isFrame
      | frame => rfl

/-- With valid options in which no free text holds an end of a line, an onlooker makes out the
request that was asked for and the frames that were written, and nothing else. -/
theorem Reaches.read_wire (keeps : url.KeepsLine) (valid : options.validate = .ok ())
    (free : ∀ text ∈ UpgradeRequest.freeTexts options, ¬ Http.crlf <:+: Bytes.ofString text)
    (reaches : Reaches (attach url options nonce keys) inputs connection)
    (announceable : ∀ frame ∈ connection.sentFrames, frame.payload.length ≤ Frame.maxPayload) :
    ((Onlooker.awaitingRequest []).read connection.wire).1 =
      connection.written.toList.map Written.sighting := by
  have legal : ∀ entry ∈ connection.keyedFrames, entry.1.IsLegal (Frame.maxPayload + 1) := by
    intro entry member
    have sent : entry.1 ∈ connection.sentFrames := by
      rw [← map_keyedFrames]
      exact List.mem_map_of_mem member
    have small := announceable _ sent
    exact (reaches.isProper_sentFrames valid _ sent).isLegal (Nat.lt_succ_of_le small) small
  have frames := Onlooker.readFrames_forms connection.keyedFrames legal
  rw [← frameBytes_eq] at frames
  obtain silent | ⟨request, composed, front, sightings⟩ := reaches.map_sighting
  · rw [wire, silent]
    rfl
  · have ends := UpgradeRequest.headLength?_of_compose keeps free composed
    rw [sightings, ← frames, reaches.wire_eq, front, Onlooker.read, List.nil_append,
      Http.headLength?_append _ ends]
    simp only [List.splitAt_eq, List.take_left, List.drop_left]

/-- An empty line in the origin is taken for the end of the request, and what follows for frames. -/
example :
    let options := ({} : Options).withOrigin "http://a\r\n\r\nb"
    let asked := (attach UpgradeRequest.chatUrl options [0x00] fun _ => ⟨0, 0, 0, 0⟩).stepUpTo 1
    ((Onlooker.awaitingRequest []).read asked.wire).1 =
      [.request (Bytes.ofString ("GET /chat?room=1 HTTP/1.1\r\nHost: example.com:8080\r\n" ++
          "Upgrade: websocket\r\nConnection: Upgrade\r\nOrigin: http://a\r\n\r\n")),
        .undecodable .reservedBits] := by
  decide +kernel

end Connection

end WebSocket
