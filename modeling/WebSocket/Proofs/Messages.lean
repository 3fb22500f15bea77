import WebSocket.Proofs.Fates
import WebSocket.Proofs.Fragments
import WebSocket.Proofs.Frame.Proper
import WebSocket.Proofs.Text

/-! # A message within the traffic of a peer

Frames that end nothing by themselves are passed over by the two passes over the traffic of a peer:
what they deserve stands in front, and the rest is judged as if it stood alone
(`reports_append_of_lawful`, `fate?_append_of_lawful`). So a data message that comes in any number
of fragments, with pings and pongs among them, is one event and one judgement, both of its whole
payload (`Carries.reports_eq`, `Carries.fate?_eq`).
-/

namespace WebSocket

variable {assembly : Assembly} {checkUtf8 : Bool} {limit : Nat} {frames : List Frame}

/-! ## Texts that can be read -/

/-- Whether a text that an event reports can be read. -/
def Event.IsReadable (event : Event) : Prop :=
  event.status = .dataReceived → ∀ frame ∈ event.frame, frame.opcode = .text → frame.isUtf8 = true

theorem Event.isReadable_of_status {event : Event} (other : event.status ≠ .dataReceived) :
    event.IsReadable :=
  fun same => absurd same other

/-- A message that is not found unreadable can be read, if texts are checked at all. -/
theorem isReadable_of_not_isBadText {message : Frame}
    (readable : ¬ isBadText checkUtf8 message.opcode message.payload = true)
    (checked : checkUtf8 = true) :
    Event.IsReadable { status := .dataReceived, frame := some message } := by
  intro _ frame same text
  obtain rfl := Option.some.inj same
  simpa [isBadText, checked, text, Frame.isUtf8] using readable

/-- Bytes that are valid UTF-8 are those of a text. -/
theorem Bytes.exists_text_of_isUtf8 {bytes : Bytes} (valid : bytes.isUtf8 = true) :
    ∃ text, text? bytes = some text ∧ ofString text = bytes := by
  rw [isUtf8, ByteArray.validateUTF8_eq_true_iff] at valid
  have read : text? bytes = some (.fromUTF8 bytes.toByteArray valid) := by
    rw [text?, String.fromUTF8?, dif_pos]
  exact ⟨_, read, ofString_of_text? read⟩

/-! ## Frames that end nothing -/

/-- A message that ends nothing by itself is one event in front of what comes later. -/
theorem Frame.exists_heard_of_fateAfter {message : Frame} {later : Option Fate}
    (lawful : message.fateAfter checkUtf8 later = none) :
    later = none ∧ (∀ other, message.fateAfter checkUtf8 other = other) ∧
      ∃ event : Event, (checkUtf8 = true → event.IsReadable) ∧
        ∀ events, heard message events = event :: events := by
  by_cases data : message.opcode.isControl = false
  · rw [fateAfter_of_data data] at lawful
    split at lawful
    · cases lawful
    · next readable =>
      refine ⟨lawful, fun other => ?_, _, isReadable_of_not_isBadText readable,
        heard_of_data data⟩
      rw [fateAfter_of_data data, if_neg readable]
  · cases opcode : message.opcode with
    | continuation | text | binary => simp [opcode, OpCode.isControl] at data
    | ping | pong =>
      have passes (other : Option Fate) : message.fateAfter checkUtf8 other = other := by
        rw [fateAfter, opcode]
      obtain ⟨status, other, hears⟩ : ∃ status, status ≠ .dataReceived ∧
          ∀ events, heard message events = { status, frame := some message } :: events := by
        refine ⟨_, ?_, fun events => by rw [heard, opcode]⟩
        simp
      exact ⟨(passes later).symm.trans lawful, passes, _, fun _ =>
        Event.isReadable_of_status other, hears⟩
    | close =>
      rw [fateAfter, opcode] at lawful
      dsimp only at lawful
      split at lawful <;> cases lawful

/-- The first of some frames that end nothing goes through assembly, and gives nothing or a message
that ends nothing. -/
theorem push_of_lawful (sound : assembly.Sound) {frame : Frame}
    {later : List (Except Violation Frame)}
    (lawful : fate? assembly.limit checkUtf8 none assembly.open? (.ok frame :: later) = none) :
    frame.isMasked = false ∧
      fate? (assembly.push frame).2.limit checkUtf8 none (assembly.push frame).2.open? later =
        none ∧
      ((assembly.push frame).1 = .ok none ∨
        ∃ message, (assembly.push frame).1 = .ok (some message) ∧
          (∀ other, message.fateAfter checkUtf8 other = other) ∧
          ∃ event : Event, (checkUtf8 = true → event.IsReadable) ∧
            ∀ events, heard message events = event :: events) := by
  have unmasked : frame.isMasked = false := by
    by_contra masked
    rw [Bool.not_eq_false] at masked
    simp [fate?, masked] at lawful
  rw [fate?_push sound unmasked, fateAfterPush_eq] at lawful
  refine ⟨unmasked, ?_⟩
  cases outcome : (assembly.push frame).1 with
  | error cause =>
    rw [outcome] at lawful
    cases lawful
  | ok given =>
    rw [outcome] at lawful
    cases given with
    | none => exact ⟨lawful, .inl rfl⟩
    | some message =>
      obtain ⟨rest, passes, hears⟩ := message.exists_heard_of_fateAfter lawful
      exact ⟨rest, .inr ⟨message, rfl, passes, hears⟩⟩

/-- Behind frames that end nothing, the rest is judged as if it stood alone. -/
theorem fate?_append_of_lawful (sound : assembly.Sound)
    (lawful : fate? assembly.limit checkUtf8 none assembly.open? (frames.map .ok) = none)
    (ending : Option StreamEnd) (later : List (Except Violation Frame)) :
    fate? assembly.limit checkUtf8 ending assembly.open? (frames.map .ok ++ later) =
      fate? (assembly.pushEach frames).2.limit checkUtf8 ending
        (assembly.pushEach frames).2.open? later := by
  induction frames generalizing assembly with
  | nil => rfl
  | cons frame frames ih =>
    rw [List.map_cons] at lawful ⊢
    obtain ⟨unmasked, rest, outcome⟩ := push_of_lawful sound lawful
    have goesOn := ih (Assembly.sound_push sound frame).1 rest
    rw [List.cons_append, fate?_push sound unmasked, fateAfterPush_eq, Assembly.pushEach_cons]
    rcases outcome with gives | ⟨message, gives, passes, -⟩
    · rw [gives]
      exact goesOn
    · rw [gives]
      dsimp only
      rw [passes]
      exact goesOn

/-- What frames that end nothing deserve stands in front of what the rest deserves alone. -/
theorem reports_append_of_lawful (sound : assembly.Sound)
    (legal : ∀ frame ∈ frames, frame.IsLegal limit)
    (lawful : fate? assembly.limit checkUtf8 none assembly.open? (frames.map .ok) = none)
    (later : List (Except Violation Frame)) :
    reports assembly.limit assembly.open? (frames.map .ok ++ later) =
      reports assembly.limit assembly.open? (frames.map .ok) ++
        reports (assembly.pushEach frames).2.limit (assembly.pushEach frames).2.open? later := by
  induction frames generalizing assembly with
  | nil => rfl
  | cons frame frames ih =>
    rw [List.map_cons] at lawful ⊢
    obtain ⟨first, others⟩ := List.forall_mem_cons.mp legal
    obtain ⟨unmasked, rest, outcome⟩ := push_of_lawful sound lawful
    have goesOn := ih (Assembly.sound_push sound frame).1 others rest
    rw [List.cons_append, reports_push sound first unmasked, reports_push sound first unmasked,
      heardAfter_eq, heardAfter_eq, Assembly.pushEach_cons]
    rcases outcome with gives | ⟨message, gives, -, event, -, hears⟩
    · rw [gives]
      exact goesOn
    · rw [gives]
      dsimp only
      rw [hears, hears, goesOn, List.cons_append]

/-- Where texts are checked, all texts in frames that end nothing can be read. -/
theorem isReadable_of_lawful (sound : assembly.Sound)
    (legal : ∀ frame ∈ frames, frame.IsLegal limit)
    (lawful : fate? assembly.limit true none assembly.open? (frames.map .ok) = none) :
    ∀ event ∈ reports assembly.limit assembly.open? (frames.map .ok), event.IsReadable := by
  induction frames generalizing assembly with
  | nil => exact List.forall_mem_nil _
  | cons frame frames ih =>
    rw [List.map_cons] at lawful ⊢
    obtain ⟨first, others⟩ := List.forall_mem_cons.mp legal
    obtain ⟨unmasked, rest, outcome⟩ := push_of_lawful sound lawful
    have goesOn := ih (Assembly.sound_push sound frame).1 others rest
    rw [reports_push sound first unmasked, heardAfter_eq]
    rcases outcome with gives | ⟨message, gives, -, event, readable, hears⟩
    · rw [gives]
      exact goesOn
    · rw [gives]
      dsimp only
      rw [hears]
      exact List.forall_mem_cons.mpr ⟨readable rfl, goesOn⟩

/-- Frames that complete no message end nothing if their control frames are pings and pongs. -/
theorem fate?_of_passed (sound : assembly.Sound)
    (passes : (assembly.pushEach frames).1 = frames.map Assembly.passed)
    (unmasked : ∀ frame ∈ frames, frame.isMasked = false)
    (open_ : ∀ frame ∈ frames, frame.opcode ≠ .close) :
    fate? assembly.limit checkUtf8 none assembly.open? (frames.map .ok) = none := by
  induction frames generalizing assembly with
  | nil => rfl
  | cons frame frames ih =>
    obtain ⟨bare, othersBare⟩ := List.forall_mem_cons.mp unmasked
    obtain ⟨notClose, othersNotClose⟩ := List.forall_mem_cons.mp open_
    rw [Assembly.pushEach_cons, List.map_cons] at passes
    obtain ⟨first, later⟩ := List.cons.inj passes
    have rest := ih (Assembly.sound_push sound frame).1 later othersBare othersNotClose
    rw [List.map_cons, fate?_push sound bare, fateAfterPush_eq, first, Assembly.passed]
    cases opcode : frame.opcode with
    | text | binary | continuation => exact rest
    | ping | pong =>
      simpa [OpCode.isControl, Frame.fateAfter, opcode] using rest
    | close => exact absurd opcode notClose

/-! ## Frames that were decoded -/

/-- Every frame that a buffer holds keeps the framing rules. -/
theorem Decoder.legal_of_mem_results {decoder : Decoder} {buffer : Bytes} {frame : Frame}
    (legal : decoder.stage.IsLegal decoder.limit)
    (member : .ok frame ∈ (decoder.exhaust buffer).results) : frame.IsLegal decoder.limit := by
  fun_induction exhaust decoder buffer with
  | case1 => cases member
  | case2 decoder buffer result given later ih =>
    have decoded := decode_legal legal buffer
    have same := limit_decode decoder buffer
    rcases List.mem_cons.mp member with rfl | behind
    · refine decoded.frame frame ?_
      unfold Decoded.result? at given
      split at given
      · cases given
      · cases given
        assumption
      · cases given
    · rw [← same]
      refine ih ?_ behind
      rw [same]
      exact decoded.stage

/-! ## A message in fragments -/

/-- A data message among frames. What came earlier ends nothing and leaves no message open; the data
frames behind it are the fragments of the message, up to the last of them; and the control frames
among these are pings and pongs. -/
structure Carries (limit : Nat) (checkUtf8 : Bool) (earlier between : List Frame) (last : Frame)
    (opcode : OpCode) (parts : List Bytes) : Prop where
  lawful : fate? limit checkUtf8 none none (earlier.map .ok) = none
  closed : ((Assembly.empty limit).pushEach earlier).2.opener = none
  data : opcode = .text ∨ opcode = .binary
  fragments : (between ++ [last]).filter (!·.opcode.isControl) = Frame.fragments opcode parts
  ends : last.opcode.isControl = false
  controls : ∀ frame ∈ between, frame.opcode.isControl = true →
    frame.opcode ≠ .close ∧ frame.isMasked = false
  fits : parts.length = 1 ∨ parts.flatten.length < limit

namespace Carries

variable {earlier between : List Frame} {last : Frame} {opcode : OpCode} {parts : List Bytes}

/-- A fragment of a message has no mask. -/
theorem unmasked_of_mem_fragments {frame : Frame} (member : frame ∈ Frame.fragments opcode parts) :
    frame.isMasked = false := by
  obtain ⟨role, payload, rfl | rfl⟩ := Frame.exists_of_mem_fragments member
  all_goals cases role <;> rfl

variable (carries : Carries limit checkUtf8 earlier between last opcode parts)

include carries

theorem unmasked {frame : Frame} (member : frame ∈ between ++ [last]) :
    frame.isMasked = false := by
  by_cases control : frame.opcode.isControl = true
  · rcases List.mem_append.mp member with inside | isLast
    · exact (carries.controls frame inside control).2
    · rw [List.mem_singleton.mp isLast, carries.ends] at control
      cases control
  · have kept : frame ∈ (between ++ [last]).filter (!·.opcode.isControl) :=
      List.mem_filter.mpr ⟨member, by simpa using control⟩
    rw [carries.fragments] at kept
    exact unmasked_of_mem_fragments kept

theorem not_close {frame : Frame} (member : frame ∈ between) : frame.opcode ≠ .close := by
  intro close
  exact (carries.controls frame member (by rw [close]; rfl)).1 close

theorem empty_eq : ((Assembly.empty limit).pushEach earlier).2 = .empty limit := by
  obtain ⟨sound, same⟩ := Assembly.sound_pushEach (Assembly.sound_empty limit) earlier
  have empty := sound.eq_empty carries.closed
  rwa [same] at empty

/-- What comes of the frames of the message: the message, with the last of them. -/
theorem pushEach_eq :
    ((Assembly.empty limit).pushEach between).1 = between.map Assembly.passed ∧
      ((Assembly.empty limit).pushEach between).2.push last =
        (.ok (some { opcode, payload := parts.flatten }), .empty limit) := by
  have nonempty : parts ≠ [] := by
    rintro rfl
    have inside : last ∈ (between ++ [last]).filter (!·.opcode.isControl) :=
      List.mem_filter.mpr ⟨by simp, by simp [carries.ends]⟩
    rw [carries.fragments] at inside
    cases inside
  obtain ⟨before, final, after, whole, isData, behind, given⟩ :=
    Assembly.gives_of_fragments (Assembly.sound_empty limit) rfl carries.data nonempty
      carries.fragments carries.fits
  -- Behind the last fragment there are only control frames, so nothing is behind it here.
  obtain rfl : after = [] := by
    rcases List.eq_nil_or_concat after with empty | ⟨front, tail, rfl⟩
    · exact empty
    · rw [List.concat_eq_append, ← List.cons_append, ← List.append_assoc] at whole
      obtain ⟨-, same⟩ := List.append_inj' whole rfl
      obtain rfl := List.singleton_inj.mp same
      have control := behind last (by simp)
      rw [carries.ends] at control
      cases control
  obtain ⟨rfl, same⟩ := List.append_inj' whole rfl
  obtain rfl := List.singleton_inj.mp same
  rw [Assembly.pushEach_append, Prod.mk.injEq] at given
  obtain ⟨outcomes, left⟩ := given
  obtain ⟨passes, pushed⟩ := List.append_inj' outcomes rfl
  exact ⟨passes, Prod.ext (List.singleton_inj.mp pushed) left⟩

/-- Nothing in front of the last fragment ends the exchange. -/
theorem lawful_front :
    fate? limit checkUtf8 none none ((earlier ++ between).map .ok) = none := by
  have goesOn := fate?_append_of_lawful (Assembly.sound_empty limit) carries.lawful none
    (between.map .ok)
  rw [carries.empty_eq] at goesOn
  rw [List.map_append]
  refine goesOn.trans (fate?_of_passed (Assembly.sound_empty limit) carries.pushEach_eq.1 ?_ ?_)
  · exact fun frame member => carries.unmasked (List.mem_append_left _ member)
  · exact fun frame member => carries.not_close member

/-- Assembly in front of the last fragment is what the fragments before it make of it. -/
theorem pushEach_front :
    ((Assembly.empty limit).pushEach (earlier ++ between)).2 =
      ((Assembly.empty limit).pushEach between).2 := by
  rw [Assembly.pushEach_append, carries.empty_eq]

variable (later : List (Except Violation Frame))

/-- The message is one event, between what is in front of its last fragment and what is behind. -/
theorem reports_eq {payloadLimit : Nat}
    (legal : ∀ frame ∈ earlier ++ between ++ [last], frame.IsLegal payloadLimit) :
    reports limit none ((earlier ++ between ++ [last]).map .ok ++ later) =
      reports limit none ((earlier ++ between).map .ok) ++
        .about .dataReceived opcode parts.flatten :: reports limit none later := by
  obtain ⟨front, final⟩ := List.forall_mem_append.mp legal
  have goesOn := reports_append_of_lawful (Assembly.sound_empty limit) front carries.lawful_front
    (.ok last :: later)
  have sound := (Assembly.sound_pushEach (Assembly.sound_empty limit) between).1
  rw [carries.pushEach_front, reports_push sound (final last (by simp))
    (carries.unmasked (by simp)), carries.pushEach_eq.2] at goesOn
  rw [List.map_append, List.append_assoc]
  refine goesOn.trans (congrArg (_ ++ ·) ?_)
  exact heard_of_data (OpCode.not_isControl_of_data carries.data) _

/-- The message is judged as a whole. -/
theorem fate?_eq (ending : Option StreamEnd) :
    fate? limit checkUtf8 ending none ((earlier ++ between ++ [last]).map .ok ++ later) =
      if isBadText checkUtf8 opcode parts.flatten then some (.refused .notUtf8)
      else fate? limit checkUtf8 ending none later := by
  have goesOn := fate?_append_of_lawful (Assembly.sound_empty limit) carries.lawful_front ending
    (.ok last :: later)
  have sound := (Assembly.sound_pushEach (Assembly.sound_empty limit) between).1
  rw [carries.pushEach_front, fate?_push sound (carries.unmasked (by simp)),
    carries.pushEach_eq.2] at goesOn
  rw [List.map_append, List.append_assoc]
  refine goesOn.trans ?_
  exact Frame.fateAfter_of_data (OpCode.not_isControl_of_data carries.data) ..

end Carries

end WebSocket
