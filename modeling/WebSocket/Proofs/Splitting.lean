import Mathlib.Data.List.Forall2
import Mathlib.Data.List.Induction
import Mathlib.Data.List.ReduceOption
import WebSocket.Proofs.Assembly

/-! # Messages as cuts of the traffic

The messages in a sequence of frames, said without message assembly: the data frames cut behind each
final one (`Frame.messages`), and the frames behind the last cut (`Frame.unfinished`). A frame
breaches the rules of fragmentation in few ways, given those before it (`Frame.Breaches`). Frames
that pass through assembly come out as these messages, each of them where its last frame went in, up
to the first frame that breaches a rule (`Assembly.absorb_splits`).
-/

namespace WebSocket

namespace Frame

/-! ## Cutting frames into messages -/

/-- Cuts frames behind each data frame that is final, and leaves out control frames. Gives the
pieces, and the data frames behind the last cut; the list `begun` holds data frames that stand in
front. -/
def cut (begun : List Frame) : List Frame → List (List Frame) × List Frame
  | [] => ([], begun)
  | frame :: later =>
    if frame.opcode.isControl then cut begun later
    else if frame.fin then
      ((begun ++ [frame]) :: (cut [] later).1, (cut [] later).2)
    else cut (begun ++ [frame]) later

/-- The frames of each message that is complete. -/
def messages (frames : List Frame) : List (List Frame) := (cut [] frames).1

/-- The frames of the message that is not complete. -/
def unfinished (frames : List Frame) : List Frame := (cut [] frames).2

/-- The opcode of the first of some frames, and the payloads of all of them. -/
def content (frames : List Frame) : Option OpCode × Bytes :=
  (frames.head?.map (·.opcode), frames.flatMap payload)

theorem content_append_singleton {frames : List Frame} (nonempty : frames ≠ []) (frame : Frame) :
    content (frames ++ [frame]) = ((content frames).1, (content frames).2 ++ frame.payload) := by
  obtain ⟨first, later, rfl⟩ := List.exists_cons_of_ne_nil nonempty
  simp [content]

theorem content_singleton (frame : Frame) :
    content [frame] = (some frame.opcode, frame.payload) := by
  simp [content]

theorem content_fst_eq_none_iff {frames : List Frame} :
    (content frames).1 = none ↔ frames = [] := by
  rw [content, Option.map_eq_none_iff, List.head?_eq_none_iff]

variable {frame : Frame} {earlier : List Frame}

theorem cut_append_singleton (begun frames : List Frame) (frame : Frame) :
    cut begun (frames ++ [frame]) =
      if frame.opcode.isControl then cut begun frames
      else if frame.fin then
        ((cut begun frames).1 ++ [(cut begun frames).2 ++ [frame]], [])
      else ((cut begun frames).1, (cut begun frames).2 ++ [frame]) := by
  fun_induction cut begun frames with
  | case1 begun => simp only [List.nil_append, cut]
  | case2 begun first later control ih => rw [List.cons_append, cut, if_pos control, ih]
  | case3 begun first later data final ih =>
    rw [List.cons_append, cut, if_neg data, if_pos final, ih]
    split_ifs <;> rfl
  | case4 begun first later data more ih => rw [List.cons_append, cut, if_neg data, if_neg more, ih]

theorem cut_of_control (control : frame.opcode.isControl = true) :
    messages (earlier ++ [frame]) = messages earlier ∧
      unfinished (earlier ++ [frame]) = unfinished earlier := by
  simp only [messages, unfinished, cut_append_singleton, if_pos control, and_self]

theorem cut_of_final (data : frame.opcode.isControl = false) (final : frame.fin = true) :
    messages (earlier ++ [frame]) = messages earlier ++ [unfinished earlier ++ [frame]] ∧
      unfinished (earlier ++ [frame]) = [] := by
  simp [messages, unfinished, cut_append_singleton, data, final]

theorem cut_of_more (data : frame.opcode.isControl = false) (more : frame.fin = false) :
    messages (earlier ++ [frame]) = messages earlier ∧
      unfinished (earlier ++ [frame]) = unfinished earlier ++ [frame] := by
  simp [messages, unfinished, cut_append_singleton, data, more]

/-! ## Frames that must not follow -/

/-- The ways in which a frame breaches the rules of fragmentation after others. -/
inductive Breaches (limit : Nat) (earlier : List Frame) (frame : Frame) : Violation → Prop
  | interrupts (data : frame.opcode = .text ∨ frame.opcode = .binary)
      (begun : unfinished earlier ≠ []) : Breaches limit earlier frame .messageInsideMessage
  | strays (continues : frame.opcode = .continuation) (complete : unfinished earlier = []) :
      Breaches limit earlier frame .strayContinuation
  | opensTooLarge (data : frame.opcode = .text ∨ frame.opcode = .binary)
      (complete : unfinished earlier = []) (more : frame.fin = false)
      (full : limit ≤ frame.payload.length) : Breaches limit earlier frame .tooLarge
  | growsTooLarge (continues : frame.opcode = .continuation) (begun : unfinished earlier ≠ [])
      (full : limit ≤ (content (unfinished earlier ++ [frame])).2.length) :
      Breaches limit earlier frame .tooLarge

/-- No frame breaches the rules after those before it. -/
def WellFragmented (limit : Nat) (frames : List Frame) : Prop :=
  ∀ earlier frame, earlier ++ [frame] <+: frames → ∀ cause, ¬ Breaches limit earlier frame cause

end Frame

namespace Assembly

/-! ## Frames that pass through assembly -/

/-- What comes of frames that are pushed one after the other: what each of them gave, up to the
first violation; that violation; and the assembly before it. -/
structure Absorbed where
  outcomes : List (Option Frame) := []
  fault : Option Violation := none
  assembly : Assembly

/-- Pushes frames one after the other, up to the first violation. -/
def absorb (assembly : Assembly) : List Frame → Absorbed
  | [] => { assembly }
  | frame :: later =>
    match assembly.push frame with
    | (.error cause, _) => { fault := some cause, assembly }
    | (.ok outcome, after) =>
      { after.absorb later with outcomes := outcome :: (after.absorb later).outcomes }

/-- The data messages that came out. -/
def Absorbed.messages (absorbed : Absorbed) : List Frame :=
  absorbed.outcomes.reduceOption.filter (!·.opcode.isControl)

theorem absorb_append {assembly after : Assembly} {early : List Frame}
    {outcomes : List (Option Frame)}
    (before : assembly.absorb early = { outcomes, assembly := after }) (late : List Frame) :
    assembly.absorb (early ++ late) =
      { after.absorb late with outcomes := outcomes ++ (after.absorb late).outcomes } := by
  induction early generalizing assembly outcomes with
  | nil =>
    cases before
    rfl
  | cons frame early ih =>
    rw [absorb] at before
    rw [List.cons_append, absorb]
    split at before
    · cases before
    · next outcome next pushed =>
      cases rested : next.absorb early with
      | mk rest fault last =>
        simp only [rested, Absorbed.mk.injEq] at before
        obtain ⟨rfl, rfl, rfl⟩ := before
        simp only [ih rested, List.cons_append]

/-! ## One frame -/

/-- What a frame gives: a control frame gives itself, and a data frame gives a data message when it
is final and nothing otherwise. -/
def Answers (frame : Frame) (outcome : Option Frame) : Prop :=
  if frame.opcode.isControl then outcome = some frame
  else outcome.isSome = frame.fin ∧
    ∀ message ∈ outcome, message.fin = true ∧ (message.opcode = .text ∨ message.opcode = .binary)

/-- The assembly after some frames: open is the message that they leave unfinished. -/
structure Holds (limit : Nat) (frames : List Frame) (assembly : Assembly) : Prop where
  sound : assembly.Sound
  limit_eq : assembly.limit = limit
  content_eq : Frame.content (Frame.unfinished frames) = (assembly.opener, assembly.collected)

variable {limit : Nat} {earlier : List Frame} {assembly : Assembly}

theorem holds_empty (limit : Nat) : Holds limit [] (empty limit) :=
  ⟨sound_empty limit, rfl, rfl⟩

theorem Holds.unfinished_eq_nil (holds : Holds limit earlier assembly)
    (closed : assembly.open? = none) : Frame.unfinished earlier = [] := by
  rw [← Frame.content_fst_eq_none_iff, holds.content_eq, opener_eq_none closed]

theorem Holds.content_of_open (holds : Holds limit earlier assembly) {opcode : OpCode}
    {bytes : Bytes} (opens : assembly.open? = some (opcode, bytes)) :
    Frame.unfinished earlier ≠ [] ∧
      Frame.content (Frame.unfinished earlier) = (some opcode, bytes) := by
  have content := holds.content_eq.trans (eq_of_open opens)
  refine ⟨fun nothing => ?_, content⟩
  rw [← Frame.content_fst_eq_none_iff, content] at nothing
  cases nothing

theorem Sound.content_of_closed (sound : assembly.Sound) (closed : assembly.open? = none) :
    (assembly.opener, assembly.collected) = Frame.content [] := by
  have none := opener_eq_none closed
  rw [none, sound.collected_eq_nil none]
  rfl

variable {frame : Frame} {cause : Violation}

/-- A frame that is refused breaches a rule. -/
theorem Holds.breaches (holds : Holds limit earlier assembly)
    (refused : (assembly.push frame).1 = .error cause) :
    Frame.Breaches limit earlier frame cause := by
  have pushes := assembly.pushes holds.sound frame
  rw [refused] at pushes
  generalize (assembly.push frame).2.open? = left at pushes
  cases pushes with
  | interrupts data opens => exact .interrupts data (holds.content_of_open opens).1
  | beginsTooLarge data closed more full =>
    rw [holds.limit_eq] at full
    exact .opensTooLarge data (holds.unfinished_eq_nil closed) more full
  | strays continues closed => exact .strays continues (holds.unfinished_eq_nil closed)
  | growsTooLarge continues opens full =>
    obtain ⟨begun, content⟩ := holds.content_of_open opens
    rw [holds.limit_eq] at full
    refine .growsTooLarge continues begun ?_
    rwa [Frame.content_append_singleton begun, content]

/-- A frame that breaches a rule is refused. -/
theorem Holds.refuses (holds : Holds limit earlier assembly)
    (breach : Frame.Breaches limit earlier frame cause) :
    (assembly.push frame).1 = .error cause := by
  have opener : (Frame.content (Frame.unfinished earlier)).1 = assembly.opener := by
    rw [holds.content_eq]
  have collected : (Frame.content (Frame.unfinished earlier)).2 = assembly.collected := by
    rw [holds.content_eq]
  cases breach with
  | interrupts data begun =>
    have opens : assembly.opener.isSome = true := by
      rwa [← opener, Option.isSome_iff_ne_none, ne_eq, Frame.content_fst_eq_none_iff]
    rw [push_of_data data, if_pos opens]
  | strays continues complete =>
    rw [complete] at opener
    simp only [push, continues, ← opener]
    rfl
  | opensTooLarge data complete more full =>
    rw [complete] at opener collected
    have closed : assembly.opener.isSome = false := by rw [← opener]; rfl
    let opening : Assembly := { assembly with opener := some frame.opcode }
    have large : opening.limit ≤ (opening.collected ++ frame.payload).length := by
      change assembly.limit ≤ (assembly.collected ++ frame.payload).length
      rwa [holds.limit_eq, ← collected]
    rw [push_of_data data, closed, more, if_neg Bool.false_ne_true, if_neg Bool.false_ne_true]
    dsimp only
    rw [collect_of_le large]
    rfl
  | growsTooLarge continues begun full =>
    obtain ⟨opcode, opens⟩ : ∃ opcode, assembly.opener = some opcode := by
      rwa [← Option.ne_none_iff_exists', ← opener, ne_eq, Frame.content_fst_eq_none_iff]
    rw [Frame.content_append_singleton begun, collected, ← holds.limit_eq] at full
    simp only [push, continues, opens, collect_of_le full]

/-- A frame that is taken gives what it should, and a final data frame gives the message that it
completes. -/
theorem Holds.push (holds : Holds limit earlier assembly) {outcome : Option Frame}
    {after : Assembly} (pushed : assembly.push frame = (.ok outcome, after)) :
    Answers frame outcome ∧ Holds limit (earlier ++ [frame]) after ∧
      (frame.opcode.isControl = false → ∀ message ∈ outcome,
        Frame.content [message] = Frame.content (Frame.unfinished earlier ++ [frame])) := by
  have pushes := assembly.pushes holds.sound frame
  obtain ⟨sound, sameLimit⟩ := sound_push holds.sound frame
  rw [holds.limit_eq] at sameLimit
  rw [pushed] at pushes sound sameLimit
  generalize left : after.open? = opened at pushes
  cases pushes with
  | passes control =>
    rw [push_of_control control] at pushed
    cases pushed
    refine ⟨?_, ⟨sound, sameLimit, ?_⟩, fun data => ?_⟩
    · rw [Answers, if_pos control]
    · rw [(Frame.cut_of_control control).2, holds.content_eq]
    · rw [control] at data
      cases data
  | whole data closed final =>
    have noControl := OpCode.not_isControl_of_data data
    refine ⟨?_, ⟨sound, sameLimit, ?_⟩, ?_⟩
    · rw [Answers, noControl]
      simp [final, data]
    · rw [(Frame.cut_of_final noControl final).2, sound.content_of_closed left]
    · rintro - message ⟨⟩
      rw [holds.unfinished_eq_nil closed, List.nil_append]
  | begins data closed more fits =>
    have noControl := OpCode.not_isControl_of_data data
    refine ⟨?_, ⟨sound, sameLimit, ?_⟩, nofun⟩
    · rw [Answers, noControl]
      simp [more]
    · rw [(Frame.cut_of_more noControl more).2, holds.unfinished_eq_nil closed, List.nil_append,
        Frame.content_singleton, eq_of_open left]
  | goesOn continues opens more fits =>
    obtain ⟨begun, content⟩ := holds.content_of_open opens
    have noControl : frame.opcode.isControl = false := by rw [continues]; rfl
    refine ⟨?_, ⟨sound, sameLimit, ?_⟩, nofun⟩
    · rw [Answers, noControl]
      simp [more]
    · rw [(Frame.cut_of_more noControl more).2, Frame.content_append_singleton begun, content,
        eq_of_open left]
  | completes continues opens data final fits =>
    obtain ⟨begun, content⟩ := holds.content_of_open opens
    have noControl : frame.opcode.isControl = false := by rw [continues]; rfl
    refine ⟨?_, ⟨sound, sameLimit, ?_⟩, ?_⟩
    · rw [Answers, noControl]
      simp [final, data]
    · rw [(Frame.cut_of_final noControl final).2, sound.content_of_closed left]
    · rintro - message ⟨⟩
      rw [Frame.content_append_singleton begun, content, Frame.content_singleton]

/-! ## Sequences of frames -/

theorem wellFragmented_append_singleton :
    Frame.WellFragmented limit (earlier ++ [frame]) ↔
      Frame.WellFragmented limit earlier ∧ ∀ cause, ¬ Frame.Breaches limit earlier frame cause := by
  constructor
  · intro kept
    exact ⟨fun first other isPrefix => kept first other (isPrefix.trans (List.prefix_append ..)),
      kept earlier frame List.prefix_rfl⟩
  · rintro ⟨kept, last⟩ first other isPrefix
    rcases List.prefix_concat_iff.mp isPrefix with whole | inside
    · obtain ⟨rfl, same⟩ := List.append_inj' whole rfl
      cases same
      exact last
    · exact kept first other inside

/-- What comes of frames of which none breaches a rule. -/
structure Splits (limit : Nat) (frames : List Frame) (absorbed : Absorbed) : Prop where
  holds : Holds limit frames absorbed.assembly
  answers : List.Forall₂ Answers frames absorbed.outcomes
  messages : absorbed.messages.map (fun message => Frame.content [message]) =
    (Frame.messages frames).map Frame.content

theorem splits_nil (limit : Nat) : Splits limit [] { assembly := empty limit } :=
  ⟨holds_empty limit, .nil, rfl⟩

/-- One more frame adds what it gives. -/
theorem Splits.append_singleton {outcomes : List (Option Frame)}
    (splits : Splits limit earlier { outcomes, assembly }) {outcome : Option Frame}
    {after : Assembly} (pushed : assembly.push frame = (.ok outcome, after)) :
    Splits limit (earlier ++ [frame]) { outcomes := outcomes ++ [outcome], assembly := after } := by
  obtain ⟨answers, holds, completes⟩ := splits.holds.push pushed
  refine ⟨holds, List.rel_append splits.answers (.cons answers .nil), ?_⟩
  have before := splits.messages
  simp only [Absorbed.messages, List.reduceOption_append, List.filter_append, List.map_append]
    at before ⊢
  rw [before]
  cases control : frame.opcode.isControl with
  | true =>
    rw [Answers, if_pos control] at answers
    rw [(Frame.cut_of_control control).1, answers]
    simp [control]
  | false =>
    rw [Answers, control, if_neg Bool.false_ne_true] at answers
    obtain ⟨given, data⟩ := answers
    cases final : frame.fin with
    | true =>
      rw [final, Option.isSome_iff_exists] at given
      obtain ⟨message, rfl⟩ := given
      have dataMessage := OpCode.not_isControl_of_data (data message rfl).2
      rw [(Frame.cut_of_final control final).1, List.map_append, List.map_singleton,
        ← completes control message rfl]
      simp [dataMessage]
    | false =>
      rw [final, Option.isSome_eq_false_iff, Option.isNone_iff_eq_none] at given
      rw [(Frame.cut_of_more control final).1, given]
      simp

/-- Frames of which none breaches a rule are all taken. -/
theorem absorb_of_wellFragmented {frames : List Frame} (kept : Frame.WellFragmented limit frames) :
    ∃ outcomes after, (empty limit).absorb frames = { outcomes, assembly := after } ∧
      Splits limit frames { outcomes, assembly := after } := by
  induction frames using List.reverseRecOn with
  | nil => exact ⟨[], empty limit, rfl, splits_nil limit⟩
  | append_singleton earlier frame ih =>
    obtain ⟨before, last⟩ := wellFragmented_append_singleton.mp kept
    obtain ⟨outcomes, middle, absorbed, splits⟩ := ih before
    cases pushed : middle.push frame with
    | mk outcome after =>
    cases outcome with
    | error cause => exact absurd (splits.holds.breaches (by rw [pushed])) (last cause)
    | ok outcome =>
      refine ⟨outcomes ++ [outcome], after, ?_, splits.append_singleton pushed⟩
      rw [absorb_append absorbed, absorb, pushed]
      rfl

/-- The first frame that breaches a rule ends the run. -/
theorem absorb_of_breaches (kept : Frame.WellFragmented limit earlier)
    (breach : Frame.Breaches limit earlier frame cause) (later : List Frame) :
    ∃ outcomes after, (empty limit).absorb (earlier ++ frame :: later) =
        { outcomes, fault := some cause, assembly := after } ∧
      Splits limit earlier { outcomes, assembly := after } := by
  obtain ⟨outcomes, after, run, splits⟩ := absorb_of_wellFragmented kept
  refine ⟨outcomes, after, ?_, splits⟩
  have refused := splits.holds.refuses breach
  cases pushed : after.push frame with
  | mk outcome next =>
    rw [pushed] at refused
    cases refused
    rw [absorb_append run, absorb, pushed]
    simp

/-- Either no frame breaches a rule, or one of them is the first that does. -/
theorem wellFragmented_or_exists_breach (limit : Nat) (frames : List Frame) :
    Frame.WellFragmented limit frames ∨
      ∃ earlier frame later cause, frames = earlier ++ frame :: later ∧
        Frame.WellFragmented limit earlier ∧ Frame.Breaches limit earlier frame cause := by
  induction frames using List.reverseRecOn with
  | nil => exact .inl fun earlier frame isPrefix => by simp at isPrefix
  | append_singleton frames last ih =>
    rcases ih with kept | ⟨earlier, frame, later, cause, rfl, kept, breach⟩
    · by_cases breaches : ∃ cause, Frame.Breaches limit frames last cause
      · obtain ⟨cause, breach⟩ := breaches
        exact .inr ⟨frames, last, [], cause, rfl, kept, breach⟩
      · exact .inl (wellFragmented_append_singleton.mpr ⟨kept, not_exists.mp breaches⟩)
    · exact .inr ⟨earlier, frame, later ++ [last], cause, by simp, kept, breach⟩

/-- A run takes frames of which none breaches a rule. -/
theorem splits_absorb (limit : Nat) (frames : List Frame) :
    let absorbed := (empty limit).absorb frames
    Splits limit (frames.take absorbed.outcomes.length) { absorbed with fault := none } := by
  rcases wellFragmented_or_exists_breach limit frames with
    kept | ⟨earlier, frame, later, cause, rfl, kept, breach⟩
  · obtain ⟨outcomes, after, run, splits⟩ := absorb_of_wellFragmented kept
    rw [run]
    simpa only [← splits.answers.length_eq, List.take_length] using splits
  · obtain ⟨outcomes, after, run, splits⟩ := absorb_of_breaches kept breach later
    rw [run]
    simpa only [← splits.answers.length_eq, List.take_left] using splits

/-- A run ends early exactly at the first frame that breaches a rule, with that breach. -/
theorem fault_eq_some_iff (limit : Nat) (frames : List Frame) (count : Nat) (cause : Violation) :
    let absorbed := (empty limit).absorb frames
    absorbed.outcomes.length = count ∧ absorbed.fault = some cause ↔
      ∃ frame, frames[count]? = some frame ∧ Frame.WellFragmented limit (frames.take count) ∧
        Frame.Breaches limit (frames.take count) frame cause := by
  constructor
  · rintro ⟨rfl, fault⟩
    rcases wellFragmented_or_exists_breach limit frames with
      kept | ⟨earlier, frame, later, other, rfl, kept, breach⟩
    · obtain ⟨outcomes, after, run, -⟩ := absorb_of_wellFragmented kept
      rw [run] at fault
      cases fault
    · obtain ⟨outcomes, after, run, splits⟩ := absorb_of_breaches kept breach later
      rw [run] at fault ⊢
      cases fault
      refine ⟨frame, ?_⟩
      simp only [← splits.answers.length_eq, List.take_left, kept, breach, and_self, and_true]
      simp
  · rintro ⟨frame, there, kept, breach⟩
    obtain ⟨inside, rfl⟩ := List.getElem?_eq_some_iff.mp there
    obtain ⟨outcomes, after, run, splits⟩ :=
      absorb_of_breaches kept breach (frames.drop (count + 1))
    have size := splits.answers.length_eq
    rw [List.length_take, Nat.min_eq_left (Nat.le_of_lt inside)] at size
    rw [← List.drop_eq_getElem_cons inside, List.take_append_drop] at run
    rw [run]
    exact ⟨size.symm, rfl⟩

theorem fault_eq_none_iff (limit : Nat) (frames : List Frame) :
    let absorbed := (empty limit).absorb frames
    absorbed.outcomes.length = frames.length ∧ absorbed.fault = none ↔
      Frame.WellFragmented limit frames := by
  constructor
  · rintro ⟨-, fault⟩
    rcases wellFragmented_or_exists_breach limit frames with
      kept | ⟨earlier, frame, later, cause, rfl, kept, breach⟩
    · exact kept
    · obtain ⟨outcomes, after, run, -⟩ := absorb_of_breaches kept breach later
      rw [run] at fault
      cases fault
  · intro kept
    obtain ⟨outcomes, after, run, splits⟩ := absorb_of_wellFragmented kept
    rw [run]
    exact ⟨splits.answers.length_eq.symm, rfl⟩

/-- Frames that pass through assembly come out as their messages. Up to the first violation each
control frame comes out as it is and where it went in, and a data message comes out, final and with
a data opcode, where each final data frame went in. In their order these messages have the contents
of the frames between the cuts, and collected is what the frames behind the last cut hold. A run
ends early exactly at the first frame that breaches a rule, with the violation that says which, and
no message that is one frame is too large. -/
theorem absorb_splits (limit : Nat) (frames : List Frame) :
    let absorbed := (empty limit).absorb frames
    let taken := frames.take absorbed.outcomes.length
    List.Forall₂ Answers taken absorbed.outcomes ∧
    absorbed.messages.map (fun message => Frame.content [message]) =
      (Frame.messages taken).map Frame.content ∧
    (absorbed.assembly.opener, absorbed.assembly.collected) =
      Frame.content (Frame.unfinished taken) ∧
    (absorbed.outcomes.length = frames.length ∧ absorbed.fault = none ↔
      Frame.WellFragmented limit frames) ∧
    (∀ count cause, absorbed.outcomes.length = count ∧ absorbed.fault = some cause ↔
      ∃ frame, frames[count]? = some frame ∧ Frame.WellFragmented limit (frames.take count) ∧
        Frame.Breaches limit (frames.take count) frame cause) ∧
    (absorbed.fault = some .tooLarge → ∃ frame ∈ frames[absorbed.outcomes.length]?,
      frame.opcode = .continuation ∨ frame.fin = false) := by
  have splits := splits_absorb limit frames
  refine ⟨splits.answers, splits.messages, splits.holds.content_eq.symm,
    fault_eq_none_iff limit frames, fault_eq_some_iff limit frames, fun fault => ?_⟩
  obtain ⟨frame, there, -, breach⟩ := (fault_eq_some_iff limit frames _ _).mp ⟨rfl, fault⟩
  refine ⟨frame, there, ?_⟩
  cases breach with
  | opensTooLarge _ _ more => exact .inr more
  | growsTooLarge continues => exact .inl continues

theorem absorb_splits_of_full_message :
    let frames : List Frame := [.fragment .text .first [1], .fragment .continuation .last [2]]
    ((empty 2).absorb frames).fault = some .tooLarge ∧
      ∃ frame ∈ frames[((empty 2).absorb frames).outcomes.length]?,
        frame.opcode = .continuation ∨ frame.fin = false := by
  intro frames
  have full : ((empty 2).absorb frames).fault = some .tooLarge := rfl
  obtain ⟨-, -, -, -, -, fragmented⟩ := absorb_splits 2 frames
  exact ⟨full, fragmented full⟩

/-- A ping between two fragments comes out before the message. -/
example :
    ((empty 4).absorb
      [.fragment .text .first [1], .ping [9], .fragment .continuation .last [2]]).outcomes =
      [none, some (.ping [9]), some (.text [1, 2])] :=
  rfl

end Assembly

end WebSocket
