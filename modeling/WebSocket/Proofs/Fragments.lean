import Mathlib.Data.List.Forall2
import WebSocket.Proofs.Assembly

/-! # Fragments with control frames between them

A message that was split is put together again, whatever control frames come before, between and
behind its fragments: they pass at their places, and the last fragment gives the message
(`pushEach_interleaved`). A message whose fragments are too large together is never given. Assembly
is pushed on after a violation here, so that nothing depends on who stops at one.
-/

namespace WebSocket

namespace Assembly

variable {assembly : Assembly} {frames : List Frame} {opcode : OpCode} {parts : List Bytes}

/-! ## Pushing frames one after the other -/

/-- What comes of each frame, violations included, and the state behind them all. -/
def pushEach (assembly : Assembly) :
    List Frame → List (Except Violation (Option Frame)) × Assembly
  | [] => ([], assembly)
  | frame :: frames =>
    let (outcome, after) := assembly.push frame
    let (outcomes, last) := after.pushEach frames
    (outcome :: outcomes, last)

theorem pushEach_cons (assembly : Assembly) (frame : Frame) (frames : List Frame) :
    assembly.pushEach (frame :: frames) =
      ((assembly.push frame).1 :: ((assembly.push frame).2.pushEach frames).1,
        ((assembly.push frame).2.pushEach frames).2) :=
  rfl

theorem pushEach_append (assembly : Assembly) (front back : List Frame) :
    assembly.pushEach (front ++ back) =
      ((assembly.pushEach front).1 ++ ((assembly.pushEach front).2.pushEach back).1,
        ((assembly.pushEach front).2.pushEach back).2) := by
  induction front generalizing assembly with
  | nil => rfl
  | cons frame front ih => rw [List.cons_append, pushEach_cons, pushEach_cons, ih, List.cons_append]

theorem sound_pushEach (sound : assembly.Sound) (frames : List Frame) :
    (assembly.pushEach frames).2.Sound ∧ (assembly.pushEach frames).2.limit = assembly.limit := by
  induction frames generalizing assembly with
  | nil => exact ⟨sound, rfl⟩
  | cons frame frames ih =>
    obtain ⟨next, same⟩ := sound_push sound frame
    obtain ⟨last, limit⟩ := ih next
    exact ⟨last, limit.trans same⟩

/-- The state in which a message of several fragments is open. -/
def opening (assembly : Assembly) (opcode : OpCode) : Assembly :=
  { assembly with opener := some opcode }

/-- Without an open message nothing is left of earlier ones. -/
theorem Sound.eq_empty (sound : assembly.Sound) (closed : assembly.opener = none) :
    assembly = empty assembly.limit := by
  obtain ⟨limit, opener, parts, size, size_eq⟩ := assembly
  obtain rfl : opener = none := closed
  obtain rfl : parts = [] := sound.closed rfl
  subst size_eq
  rfl

/-- Taking the first of several payloads is a step towards taking them all. -/
theorem collected_flatten_cons (assembly : Assembly) (part : Bytes) (parts : List Bytes) :
    assembly.collected ++ (part :: parts).flatten =
      (assembly.extend part).collected ++ parts.flatten := by
  rw [List.flatten_cons, collected_extend, List.append_assoc]

/-- Without an open message the payloads of the next one are all that is taken. -/
theorem Sound.flatten_cons (sound : assembly.Sound) (closed : assembly.opener = none)
    (opcode : OpCode) (part : Bytes) (parts : List Bytes) :
    (part :: parts).flatten =
      ((assembly.opening opcode).extend part).collected ++ parts.flatten := by
  have begun : (assembly.opening opcode).collected = [] := sound.collected_eq_nil closed
  rw [← collected_flatten_cons, begun, List.nil_append]

/-! ## Control frames -/

/-- What comes of a frame that completes no message: a control frame passes. -/
def passed (frame : Frame) : Except Violation (Option Frame) :=
  .ok (if frame.opcode.isControl then some frame else none)

/-- Control frames pass, and leave assembly as it is. -/
theorem pushEach_controls (controls : ∀ frame ∈ frames, frame.opcode.isControl = true) :
    assembly.pushEach frames = (frames.map passed, assembly) := by
  induction frames with
  | nil => rfl
  | cons frame frames ih =>
    obtain ⟨control, others⟩ := List.forall_mem_cons.mp controls
    rw [pushEach_cons, push_of_control control, ih others, List.map_cons, passed, if_pos control]

/-- The first data frame, and the control frames in front of it. -/
theorem exists_first_data {fragment : Frame} {later : List Frame}
    (interleaved : frames.filter (!·.opcode.isControl) = fragment :: later) :
    ∃ front back, frames = front ++ fragment :: back ∧
      (∀ frame ∈ front, frame.opcode.isControl = true) ∧
      fragment.opcode.isControl = false ∧ back.filter (!·.opcode.isControl) = later := by
  obtain ⟨front, back, whole, controls, data, rest⟩ := List.filter_eq_cons_iff.mp interleaved
  exact ⟨front, back, whole, fun frame member => by simpa using controls frame member,
    by simpa using data, rest⟩

theorem controls_of_filter_eq_nil (none : frames.filter (!·.opcode.isControl) = []) :
    ∀ frame ∈ frames, frame.opcode.isControl = true := by
  intro frame member
  simpa using List.filter_eq_nil_iff.mp none frame member

/-- Control frames and then a frame with others behind it. -/
theorem pushEach_of_front {front back : List Frame} {fragment : Frame}
    (controls : ∀ frame ∈ front, frame.opcode.isControl = true) :
    assembly.pushEach (front ++ fragment :: back) =
      (front.map passed ++ (assembly.push fragment).1 ::
        ((assembly.push fragment).2.pushEach back).1,
        ((assembly.push fragment).2.pushEach back).2) := by
  rw [pushEach_append, pushEach_controls controls, pushEach_cons]

/-! ## Fragments that fit -/

/-- Whether a sequence of frames gives one message, with the last of its data frames. -/
def Gives (assembly : Assembly) (frames : List Frame) (message : Frame) (closed : Assembly) :
    Prop :=
  ∃ before last after, frames = before ++ last :: after ∧ last.opcode.isControl = false ∧
    (∀ frame ∈ after, frame.opcode.isControl = true) ∧
    assembly.pushEach frames =
      (before.map passed ++ .ok (some message) :: after.map passed, closed)

theorem Gives.prepend {front back : List Frame} {fragment message : Frame}
    {closed next : Assembly} (controls : ∀ frame ∈ front, frame.opcode.isControl = true)
    (data : fragment.opcode.isControl = false)
    (pushed : assembly.push fragment = (.ok none, next)) (gives : next.Gives back message closed) :
    assembly.Gives (front ++ fragment :: back) message closed := by
  obtain ⟨before, last, after, rfl, isData, behind, given⟩ := gives
  refine ⟨front ++ fragment :: before, last, after, by simp, isData, behind, ?_⟩
  have withheld : passed fragment = .ok none := by
    rw [passed, if_neg (Bool.eq_false_iff.mp data)]
  rw [pushEach_of_front controls, pushed, given, List.map_append, List.map_cons, withheld,
    List.append_assoc, List.cons_append]

theorem gives_of_push {front back : List Frame} {fragment message : Frame} {closed : Assembly}
    (controls : ∀ frame ∈ front, frame.opcode.isControl = true)
    (data : fragment.opcode.isControl = false)
    (behind : ∀ frame ∈ back, frame.opcode.isControl = true)
    (pushed : assembly.push fragment = (.ok (some message), closed)) :
    assembly.Gives (front ++ fragment :: back) message closed := by
  refine ⟨front, fragment, back, rfl, data, behind, ?_⟩
  rw [pushEach_of_front controls, pushed, pushEach_controls behind]

/-- The last fragment of a message that fits. -/
theorem push_last (opens : assembly.opener = some opcode) {part : Bytes}
    (fits : (assembly.collected ++ part).length < assembly.limit) :
    assembly.push (.fragment .continuation .last part) =
      (.ok (some { opcode, payload := assembly.collected ++ part }), empty assembly.limit) := by
  simp only [push, Frame.fragment, opens, collect_of_lt fits, collected_extend]
  rfl

/-- A fragment in the middle of a message that fits. -/
theorem push_middle (opens : assembly.opener = some opcode) {part : Bytes}
    (fits : (assembly.collected ++ part).length < assembly.limit) :
    assembly.push (.fragment .continuation .none part) = (.ok none, assembly.extend part) := by
  simp only [push, Frame.fragment, opens, collect_of_lt fits]
  rfl

/-- The fragments that are left complete the message that is open. -/
theorem gives_of_laterFragments (opens : assembly.opener = some opcode) (nonempty : parts ≠ [])
    (interleaved : frames.filter (!·.opcode.isControl) = Frame.laterFragments parts)
    (fits : (assembly.collected ++ parts.flatten).length < assembly.limit) :
    assembly.Gives frames { opcode, payload := assembly.collected ++ parts.flatten }
      (empty assembly.limit) := by
  induction parts using Frame.laterFragments.induct generalizing assembly frames with
  | case1 => exact absurd rfl nonempty
  | case2 part =>
    rw [List.flatten_singleton] at fits ⊢
    obtain ⟨front, back, rfl, controls, data, rest⟩ := exists_first_data interleaved
    exact gives_of_push controls data (controls_of_filter_eq_nil rest) (push_last opens fits)
  | case3 part parts more ih =>
    have later : Frame.laterFragments (part :: parts) =
        .fragment .continuation .none part :: Frame.laterFragments parts :=
      Frame.laterFragments.eq_3 part parts more
    rw [later] at interleaved
    obtain ⟨front, back, rfl, controls, data, rest⟩ := exists_first_data interleaved
    have room : (assembly.collected ++ part).length < assembly.limit := by
      simp only [List.flatten_cons, List.length_append] at fits ⊢
      omega
    rw [collected_flatten_cons] at fits ⊢
    have given := ih (show (assembly.extend part).opener = some opcode from opens) more rest fits
    exact given.prepend controls data (push_middle opens room)

/-- A message in one frame. -/
theorem push_whole (data : opcode = .text ∨ opcode = .binary) (closed : assembly.opener = none)
    (part : Bytes) : assembly.push (.fragment opcode .none part) =
      (.ok (some { opcode, payload := part }), assembly) := by
  rw [push_of_data data, closed]
  rcases data with rfl | rfl <;> rfl

/-- The first of several fragments. -/
theorem push_first (data : opcode = .text ∨ opcode = .binary) (closed : assembly.opener = none)
    (part : Bytes) : assembly.push (.fragment opcode .first part) =
      (((assembly.opening opcode).collect part).1.map fun _ => none,
        (assembly.opening opcode).extend part) := by
  rw [push_of_data data, closed]
  rfl

/-- All fragments of a message that fits give it, and leave assembly as it was. -/
theorem gives_of_fragments (sound : assembly.Sound) (closed : assembly.opener = none)
    (data : opcode = .text ∨ opcode = .binary) (nonempty : parts ≠ [])
    (interleaved : frames.filter (!·.opcode.isControl) = Frame.fragments opcode parts)
    (fits : parts.length = 1 ∨ parts.flatten.length < assembly.limit) :
    assembly.Gives frames { opcode, payload := parts.flatten } assembly := by
  match parts, nonempty with
  | [part], _ =>
    obtain ⟨front, back, rfl, controls, isData, rest⟩ := exists_first_data interleaved
    rw [List.flatten_singleton]
    exact gives_of_push controls isData (controls_of_filter_eq_nil rest)
      (push_whole data closed part)
  | part :: next :: parts, _ =>
    obtain ⟨front, back, rfl, controls, isData, rest⟩ := exists_first_data interleaved
    have room : (part :: next :: parts).flatten.length < assembly.limit := by
      refine fits.resolve_left ?_
      simp
    rw [sound.flatten_cons closed opcode] at room ⊢
    have first : ((assembly.opening opcode).collected ++ part).length <
        (assembly.opening opcode).limit := by
      rw [collected_extend, List.length_append] at room
      exact Nat.lt_of_le_of_lt (Nat.le_add_right _ _) room
    have pushed := push_first data closed part
    rw [collect_of_lt first] at pushed
    have opens : ((assembly.opening opcode).extend part).opener = some opcode := rfl
    have given := (gives_of_laterFragments opens (List.cons_ne_nil _ _) rest room).prepend controls
      isData pushed
    have same : empty ((assembly.opening opcode).extend part).limit = assembly :=
      (sound.eq_empty closed).symm
    rwa [same] at given

/-! ## Fragments that are too large -/

/-- What comes of a frame when its message is not given: a control frame passes, and a fragment is
taken or refused as too large. -/
def Withholds (frame : Frame) (outcome : Except Violation (Option Frame)) : Prop :=
  if frame.opcode.isControl then outcome = .ok (some frame)
  else outcome = .ok none ∨ outcome = .error .tooLarge

/-- Whether a sequence of frames is refused as too large and gives no message at all. -/
def Refuses (assembly : Assembly) (frames : List Frame) : Prop :=
  List.Forall₂ Withholds frames (assembly.pushEach frames).1 ∧
    .error .tooLarge ∈ (assembly.pushEach frames).1

theorem withholds_controls (controls : ∀ frame ∈ frames, frame.opcode.isControl = true) :
    List.Forall₂ Withholds frames (frames.map passed) := by
  refine List.forall₂_map_right_iff.mpr (List.forall₂_same.mpr fun frame member => ?_)
  rw [Withholds, passed, if_pos (controls frame member), if_pos (controls frame member)]

/-- One fragment with control frames in front of it. -/
theorem withholds_of_front {front back : List Frame} {fragment : Frame}
    (controls : ∀ frame ∈ front, frame.opcode.isControl = true)
    (withheld : Withholds fragment (assembly.push fragment).1)
    (rest : List.Forall₂ Withholds back ((assembly.push fragment).2.pushEach back).1) :
    List.Forall₂ Withholds (front ++ fragment :: back)
      (assembly.pushEach (front ++ fragment :: back)).1 := by
  rw [pushEach_of_front controls]
  exact List.rel_append (withholds_controls controls) (.cons withheld rest)

theorem Refuses.prepend {front back : List Frame} {fragment : Frame}
    (controls : ∀ frame ∈ front, frame.opcode.isControl = true)
    (withheld : Withholds fragment (assembly.push fragment).1)
    (refuses : (assembly.push fragment).2.Refuses back) :
    assembly.Refuses (front ++ fragment :: back) := by
  refine ⟨withholds_of_front controls withheld refuses.1, ?_⟩
  rw [pushEach_of_front controls]
  simp [refuses.2]

/-- A fragment that is too much for the message that is open. -/
theorem push_full (opens : assembly.opener = some opcode) {part : Bytes}
    (full : assembly.limit ≤ (assembly.collected ++ part).length) (role : FragmentRole) :
    assembly.push (.fragment .continuation role part) =
      (.error .tooLarge, assembly.extend part) := by
  cases role <;> simp only [push, Frame.fragment, opens, collect_of_le full]

/-- The fragments that are left are too large for the message that is open. -/
theorem refuses_of_laterFragments (opens : assembly.opener = some opcode) (nonempty : parts ≠ [])
    (interleaved : frames.filter (!·.opcode.isControl) = Frame.laterFragments parts)
    (full : assembly.limit ≤ (assembly.collected ++ parts.flatten).length) :
    assembly.Refuses frames := by
  induction parts using Frame.laterFragments.induct generalizing assembly frames with
  | case1 => exact absurd rfl nonempty
  | case2 part =>
    rw [List.flatten_singleton] at full
    obtain ⟨front, back, rfl, controls, data, rest⟩ := exists_first_data interleaved
    have behind := controls_of_filter_eq_nil rest
    have refused := push_full opens full .last
    refine ⟨withholds_of_front controls ?_ ?_, ?_⟩
    · rw [refused]
      exact .inr rfl
    · rw [pushEach_controls behind]
      exact withholds_controls behind
    · rw [pushEach_of_front controls, refused]
      simp
  | case3 part parts more ih =>
    rw [Frame.laterFragments.eq_3 part parts more] at interleaved
    obtain ⟨front, back, rfl, controls, data, rest⟩ := exists_first_data interleaved
    rw [collected_flatten_cons] at full
    have refuses := ih (show (assembly.extend part).opener = some opcode from opens) more rest full
    -- Once the size is reached it stays reached, so the last fragment is refused in any case.
    obtain ⟨outcome, pushed, withheld⟩ : ∃ outcome,
        assembly.push (.fragment .continuation .none part) = (outcome, assembly.extend part) ∧
          Withholds (.fragment .continuation .none part) outcome := by
      rcases Nat.lt_or_ge (assembly.collected ++ part).length assembly.limit with fits | full
      · exact ⟨_, push_middle opens fits, .inl rfl⟩
      · exact ⟨_, push_full opens full .none, .inr rfl⟩
    refine .prepend controls ?_ ?_
    all_goals rwa [pushed]

/-- Several fragments that are too large together are refused. -/
theorem refuses_of_fragments (sound : assembly.Sound) (closed : assembly.opener = none)
    (data : opcode = .text ∨ opcode = .binary) (several : 2 ≤ parts.length)
    (interleaved : frames.filter (!·.opcode.isControl) = Frame.fragments opcode parts)
    (full : assembly.limit ≤ parts.flatten.length) : assembly.Refuses frames := by
  match parts, several with
  | part :: next :: parts, _ =>
    obtain ⟨front, back, rfl, controls, isData, rest⟩ := exists_first_data interleaved
    rw [sound.flatten_cons closed opcode] at full
    have opens : ((assembly.opening opcode).extend part).opener = some opcode := rfl
    have refuses := refuses_of_laterFragments opens (List.cons_ne_nil _ _) rest full
    have withheld : Withholds (.fragment opcode .first part)
        (((assembly.opening opcode).collect part).1.map fun _ => none) := by
      rw [Withholds, if_neg (Bool.eq_false_iff.mp isData)]
      unfold collect
      dsimp only
      split
      · exact .inl rfl
      · exact .inr rfl
    refine .prepend controls ?_ ?_
    all_goals rwa [push_first data closed]

/-! ## Fragments of any message -/

/-- The frames of a message, with any control frames among them, after whatever left no message
open. If they fit, each control frame passes at its place, the last fragment gives the message, and
assembly is as it was before. Otherwise a fragment is refused as too large and nothing but control
frames comes out. -/
theorem pushEach_interleaved {limit : Nat} {earlier : List Frame}
    (data : opcode = .text ∨ opcode = .binary) (nonempty : parts ≠ [])
    (closed : ((empty limit).pushEach earlier).2.opener = none)
    (interleaved : frames.filter (!·.opcode.isControl) = Frame.fragments opcode parts) :
    let assembly := ((empty limit).pushEach earlier).2
    (parts.length = 1 ∨ parts.flatten.length < limit →
      ∃ before last after, frames = before ++ last :: after ∧ last.opcode.isControl = false ∧
        (∀ frame ∈ after, frame.opcode.isControl = true) ∧
        assembly.pushEach frames =
          (before.map passed ++ .ok (some { opcode, payload := parts.flatten }) ::
            after.map passed, assembly)) ∧
    (2 ≤ parts.length → limit ≤ parts.flatten.length →
      List.Forall₂ Withholds frames (assembly.pushEach frames).1 ∧
        .error .tooLarge ∈ (assembly.pushEach frames).1) := by
  intro assembly
  obtain ⟨sound, same⟩ := sound_pushEach (sound_empty limit) earlier
  refine ⟨fun fits => ?_, fun several full => ?_⟩
  · exact gives_of_fragments sound closed data nonempty interleaved (same ▸ fits)
  · exact refuses_of_fragments sound closed data several interleaved (same ▸ full)

/-- A text cut inside a character, with a ping between its two fragments. -/
theorem pushEach_interleaved_ping :
    let frames : List Frame := [.fragment .text .first [0xC3], .ping [0x01],
      .fragment .continuation .last [0xA4]]
    frames.filter (!·.opcode.isControl) = Frame.fragments .text [[0xC3], [0xA4]] ∧
      ∃ before last after, frames = before ++ last :: after ∧ last.opcode.isControl = false ∧
        (∀ frame ∈ after, frame.opcode.isControl = true) ∧
        (empty 3).pushEach frames =
          (before.map passed ++ .ok (some (.text [0xC3, 0xA4])) :: after.map passed, empty 3) := by
  intro frames
  have interleaved : frames.filter (!·.opcode.isControl) =
      Frame.fragments .text [[0xC3], [0xA4]] := by
    decide
  have closed : ((empty 3).pushEach []).2.opener = none := rfl
  exact ⟨interleaved, (pushEach_interleaved (.inl rfl) (List.cons_ne_nil _ _) closed interleaved).1
    (.inr (by decide))⟩

end Assembly

end WebSocket
