import Mathlib.Algebra.GroupWithZero.Nat
import VisualNovel.Proofs.Playback.Commands
import VisualNovel.Proofs.Playback.Course

namespace VisualNovel

open Dump (Stop)

/-- How often the pointer goes down at an event before the next one is played. A line is completed
first, unless it has no text. -/
def Event.downs : Event → Nat
  | .dialog line => if line.text = "" then 1 else 2
  | e => if e.isBlocking then 1 else 0

theorem Event.downs_le (e : Event) : e.downs ≤ 2 := by
  unfold downs
  split <;> split <;> omega

theorem sum_downs_le (events : List Event) : (events.map Event.downs).sum ≤ 2 * events.length := by
  induction events with
  | nil => simp
  | cons e rest ih =>
    have le := e.downs_le
    simp only [List.map_cons, List.sum_cons, List.length_cons]
    omega

namespace Dump

/-- The report as it is read off the events of a timeline. -/
def reading (config : Config) (random : Random) (start : String) (timeline : Timeline) : Report :=
  let place := timeline.findIdx (·.stop?.isSome)
  { timeline := start
    cursor := ⟨some start, if place < timeline.length then place + 1 else place⟩
    stopped := (timeline[place]?.bind Event.stop?).getD .ended
    advances := ((timeline.take place).map Event.downs).sum
    commands :=
      .setAdvanceEnabled true :: commandsFrom config random [] (timeline.take (place + 1)) }

/-- After so many pointer downs a player comes to a stop, and no bound is set to them. -/
inductive Halts : Progress × Playback → Nat → Stop → Playback → Prop where
  | stopped {g : Progress} {p : Playback} {stop : Stop} (stops : stop? g = some stop) :
      Halts (g, p) 0 stop p
  | advanced {g : Progress} {p q : Playback} {advances : Nat} {stop : Stop}
      (goes : stop? g = none) (later : Halts p.advance advances stop q) :
      Halts (g, p) (advances + 1) stop q

/-- A bound that is high enough makes no difference. -/
theorem Halts.advanceAll {r : Progress × Playback} {advances : Nat} {stop : Stop} {q : Playback}
    (h : Halts r advances stop q) {bound : Nat} (enough : advances ≤ bound) (count : Nat) :
    advanceAll bound count r = (count + advances, stop, q) := by
  induction h generalizing bound count with
  | stopped stops => exact advanceAll_stopped bound count stops
  | @advanced g p q advances stop goes later ih =>
    obtain ⟨bound, rfl⟩ := Nat.exists_eq_add_one_of_ne_zero (show bound ≠ 0 by omega)
    simp only [Dump.advanceAll, goes]
    rw [ih (Nat.le_of_succ_le_succ enough), Nat.add_assoc, Nat.add_comm 1]

end Dump

namespace Playback

open Dump (Halts)

/-- A player that has played some events, and goes on with the others next. -/
structure Between (config : Config) (random : Random) (start : String) (before rest : List Event)
    (p : Playback) : Prop extends p.Paused (before ++ rest) where
  index : p.player.index = before.length
  named : p.player.timelineKey = some start
  hidden : p.player.reveal = none
  settings : p.player.config = config
  stream : p.player.random = random
  size : p.canvas = config.canvas
  playing : p.surface.stage.isPlaying = playsAfter before
  log : p.surface.log.toList = .setAdvanceEnabled true :: commandsFrom config random [] before

/-- A player that goes on comes to a stop after so many pointer downs. -/
def GoesTo (p : Playback) (advances : Nat) (stop : Stop) (q : Playback) : Prop :=
  Halts (p.run.2.settle p.run.1) advances stop q

variable {config : Config} {random : Random} {start : String} {before rest : List Event}
  {p m : Playback} {e : Event}

theorem Between.run_eq (h : p.Between config random start before rest) :
    p.run = p.runThrough rest := by
  simp only [run, h.plays, h.index, List.drop_left]

theorem Between.run_blocking (h : p.Between config random start before (e :: rest))
    (blocking : e.pacing = .blocking) : p.run = (p.passing e).block e := by
  rw [h.run_eq]
  simp only [runThrough, blocking]

theorem Between.down (h : p.Between config random start before rest) {g : Progress}
    (goes : Dump.stop? g = none) {advances : Nat} {stop : Stop} {q : Playback}
    (later : p.GoesTo advances stop q) : Halts (g, p) (advances + 1) stop q := by
  refine .advanced goes ?_
  rw [advance_run h.navigation h.enabled h.hidden]
  exact later

/-- The commands of an event are given, and the cursor is moved past it. -/
theorem Between.next (h : p.Between config random start before (e :: rest)) (style : TextStyle)
    (g : Progress) (player : m.player =
      { p.player with index := p.player.index + 1, dialogStyle := style, progress := g })
    (surface : m.surface = p.surface.performAll (e.commands config random (playsAfter before))) :
    m.Between config random start (before ++ [e]) rest where
  plays := by simp [player, h.plays]
  navigation := by simp [player, h.navigation]
  enabled := by simp [player, h.enabled]
  index := by simp [player, h.index]
  named := by simp [player, h.named]
  hidden := by simp [player, h.hidden]
  settings := by simp [player, h.settings]
  stream := by simp [player, h.stream]
  size := by
    rw [← h.size, Playback.canvas, surface]
    exact Surface.performAll_canvas _ _
  playing := by
    -- what the commands do to the sounds is what the event asks of them
    funext key
    rw [playsAfter_concat, ← h.playing, surface, Stage.isPlaying, Surface.performAll_sounds,
      ← h.playing]
    exact e.contains_commands config random p.surface.stage.sounds key
  log := by
    rw [surface, Surface.log_performAll, h.log, commandsFrom_concat, List.cons_append]

/-- The player goes past an event with as many pointer downs as are read off it. -/
def Passes (config : Config) (random : Random) (start : String) (before rest : List Event)
    (e : Event) (p : Playback) : Prop :=
  ∃ m : Playback, m.Between config random start (before ++ [e]) rest ∧
    ∀ advances stop q, m.GoesTo advances stop q → p.GoesTo (e.downs + advances) stop q

theorem Between.passing_size (h : p.Between config random start before (e :: rest)) :
    (p.passing e).canvas = (p.passing e).player.config.canvas := by
  simpa [Playback.canvas, h.settings] using h.size

theorem Between.applied (h : p.Between config random start before (e :: rest))
    (immediate : e.pacing = .immediate) : ((p.passing e).apply e).surface =
      p.surface.performAll (e.opening config random (playsAfter before)) := by
  have applied := apply_opening immediate h.passing_size
  simpa [h.settings, h.stream, h.playing] using applied

theorem Between.blocked (h : p.Between config random start before (e :: rest))
    (blocking : e.pacing = .blocking) : ((p.passing e).block e).2.surface =
      p.surface.performAll (e.opening config random (playsAfter before)) := by
  have blocked := block_opening blocking h.passing_size
  simpa [h.settings, h.stream, h.playing] using blocked

theorem Between.passes_immediate (h : p.Between config random start before (e :: rest))
    (immediate : e.pacing = .immediate) : p.Passes config random start before rest e := by
  have silent : e.completion = [] := by
    cases e <;> first | rfl | cases immediate
  have no_downs : e.downs = 0 := by
    cases e <;> first | rfl | cases immediate
  have next : ((p.passing e).apply e).Between config random start (before ++ [e]) rest := by
    refine h.next p.player.dialogStyle p.player.progress (by simp) ?_
    rw [h.applied immediate, Event.commands, silent, List.append_nil]
  -- the player does not stop in between, so that both run on alike
  have run : p.run = ((p.passing e).apply e).run := by
    rw [h.run_eq, next.run_eq]
    simp only [runThrough, immediate]
  refine ⟨_, next, fun advances stop q later => ?_⟩
  rw [no_downs, Nat.zero_add, GoesTo, run]
  exact later

theorem Between.passes_blocking (h : p.Between config random start before (e :: rest))
    (blocking : e.pacing = .blocking) (goes : e.stop? = none) (silent : e.completion = []) :
    p.Passes config random start before rest e := by
  have one_down : e.downs = 1 := by
    cases e with
    | dialog line =>
      have text : line.text = "" := by simpa [Event.completion] using silent
      exact if_pos text
    | _ => first | rfl | cases blocking
  have run := h.run_blocking blocking
  have pauses : Dump.stop? ((p.passing e).block e).1 = none := (block_stop? _ e).trans goes
  have performed := h.blocked blocking
  have blocked := block_blocked (p.passing e) e
  rw [← run] at pauses performed blocked
  have next : (p.run.2.settle p.run.1).2.Between config random start (before ++ [e]) rest := by
    generalize p.run = r at pauses performed blocked
    obtain ⟨g, b⟩ := r
    dsimp only at pauses performed blocked
    rw [← List.append_nil (e.opening _ _ _), ← silent] at performed
    cases blocked with
    | @typing line style reveal text hidden player surface =>
      -- a line without a text is complete from the beginning
      have empty : line.text = "" := by simpa [Event.completion] using silent
      simp [Reveal.isComplete, Reveal.charCount, text, empty] at hidden
    | @waiting _ style player surface => exact h.next style .waitInput (by simp [player]) performed
    | stalled player surface =>
      exact h.next p.player.dialogStyle .stalled (by simp [player]) performed
    | restart | scene | gate => cases pauses
  refine ⟨_, next, fun advances stop q later => ?_⟩
  rw [one_down, Nat.add_comm]
  exact next.down pauses later

theorem showLine_typing (p : Playback) {line : DialogLine} (text : line.text ≠ "") :
    ∃ b reveal, p.showLine line = (.typing, b) ∧ reveal.text = line.text ∧
      b.player = { p.player with dialogStyle := line.style, reveal := some reveal } := by
  unfold showLine
  dsimp only
  split
  · next complete => simp [Reveal.isComplete, Reveal.charCount, text] at complete
  · exact ⟨_, _, rfl, rfl, rfl⟩

theorem Between.passes_line {line : DialogLine}
    (h : p.Between config random start before (.dialog line :: rest)) (text : line.text ≠ "") :
    p.Passes config random start before rest (.dialog line) := by
  have two_downs : (Event.dialog line).downs = 2 := if_neg text
  obtain ⟨b, reveal, begun, same, player⟩ := showLine_typing (p.passing (.dialog line)) text
  have run : p.run = (.typing, b) := (h.run_blocking rfl).trans begun
  have performed := h.blocked rfl
  rw [← h.run_blocking rfl, run] at performed
  -- the first pointer down shows the whole text, and nothing is left that a second one completes
  have completed := @advance_shown (b.settle .typing).2 reveal (by simp [player, h.navigation])
    (by simp [player, h.enabled]) (by simp [player])
  have next : (b.settle .typing).2.advance.2.Between config random start
      (before ++ [.dialog line]) rest := by
    refine h.next line.style .waitInput ?_ ?_
    · rw [completed]
      simp [player, h.hidden]
    · have full : (Event.dialog line).completion = [.setDialogText line.text line.style] :=
        if_neg text
      rw [completed, Event.commands, full, Surface.performAll_append, ← performed]
      simp [player, same]
  refine ⟨_, next, fun advances stop q later => ?_⟩
  have goes : Dump.stop? (b.settle .typing).2.advance.1 = none := by
    rw [completed]
    rfl
  have shown : Halts (b.settle .typing).2.advance (advances + 1) stop q := next.down goes later
  rw [two_downs, Nat.add_comm, GoesTo, run]
  exact .advanced rfl shown

theorem Between.passes (h : p.Between config random start before (e :: rest))
    (goes : e.stop? = none) : p.Passes config random start before rest e := by
  cases pacing : e.pacing with
  | immediate => exact h.passes_immediate pacing
  | blocking =>
    by_cases silent : e.completion = []
    · exact h.passes_blocking pacing goes silent
    · cases e with
      | dialog line =>
        refine h.passes_line fun empty => silent ?_
        simp [Event.completion, empty]
      | _ => exact (silent rfl).elim

/-- Events among which there is no stop are gone past one by one, and the pointer downs add up. -/
theorem Between.passes_all {events : List Event}
    (h : p.Between config random start before (events ++ rest))
    (passed : ∀ e ∈ events, e.stop? = none) :
    ∃ m : Playback, m.Between config random start (before ++ events) rest ∧
      ∀ advances stop q, m.GoesTo advances stop q →
        p.GoesTo ((events.map Event.downs).sum + advances) stop q := by
  induction events generalizing p before with
  | nil =>
    refine ⟨p, by simpa using h, fun advances stop q later => ?_⟩
    simpa using later
  | cons e events ih =>
    obtain ⟨goes, passed⟩ := List.forall_mem_cons.1 passed
    obtain ⟨m, next, leads⟩ := h.passes goes
    obtain ⟨m', between, leads'⟩ := ih next passed
    refine ⟨m', by simpa using between, fun advances stop q later => ?_⟩
    rw [List.map_cons, List.sum_cons, Nat.add_assoc]
    exact leads _ _ _ (leads' _ _ _ later)

theorem Between.stops (h : p.Between config random start before (e :: rest)) {stop : Stop}
    (stops : e.stop? = some stop) : ∃ q : Playback, p.GoesTo 0 stop q ∧
      q.snapshot = ⟨some start, before.length + 1⟩ ∧
      q.surface.log.toList =
        .setAdvanceEnabled true :: commandsFrom config random [] (before ++ [e]) := by
  have blocking : e.pacing = .blocking := by
    cases e <;> first | rfl | cases stops
  have silent : e.completion = [] := by
    cases e <;> first | rfl | cases stops
  have run := h.run_blocking blocking
  have moved := blocked_moved (block_blocked (p.passing e) e)
  have setUp := blocked_setUp (block_blocked (p.passing e) e)
  refine ⟨(p.run.2.settle p.run.1).2, ?_, ?_, ?_⟩
  · refine .stopped ?_
    rw [run, block_stop?, stops]
  · rw [run]
    simp [snapshot, moved.index, setUp.2, h.index, h.named]
  · rw [run, settle_surface, h.blocked blocking, Surface.log_performAll, h.log,
      commandsFrom_concat, Event.commands, silent, List.append_nil, List.cons_append]

theorem Between.ends (h : p.Between config random start before []) :
    ∃ q : Playback, p.GoesTo 0 .ended q ∧ q.snapshot = ⟨some start, before.length⟩ ∧
      q.surface.log.toList = .setAdvanceEnabled true :: commandsFrom config random [] before := by
  refine ⟨(p.run.2.settle p.run.1).2, ?_, ?_, ?_⟩
  · rw [GoesTo, h.run_eq]
    exact .stopped rfl
  · rw [h.run_eq]
    simp [runThrough, snapshot, h.named, h.index]
  · rw [h.run_eq]
    simp [runThrough, h.log]

/-- A player that is about to begin has played nothing, and the surface takes pointer downs. -/
theorem between_readied (timeline : Timeline) (named : p.player.timelineKey = some start)
    (settings : p.player.config = config) (stream : p.player.random = random)
    (surface : p.surface = .ofCanvas config.canvas) :
    (p.readied timeline 0).Between config random start [] timeline where
  plays := (p.readied_ready timeline 0).timeline
  navigation := (p.readied_ready timeline 0).navigation
  enabled := (p.readied_ready timeline 0).enabled
  index := (p.readied_ready timeline 0).index
  named := by rw [readied_timelineKey, named]
  hidden := (p.readied_ready timeline 0).reveal
  settings := by rw [readied_config, settings]
  stream := by simp [readied, stream]
  size := by
    rw [readied_canvas, canvas, surface]
    rfl
  playing := by
    funext key
    simp only [readied, note_surface, setAdvanceEnabled_surface, surface]
    rfl
  log := by
    simp [readied, surface, Surface.log_perform, Surface.ofCanvas, commandsFrom]

end Playback

namespace Dump

theorem stop?_of_mem_take {timeline : Timeline} {e : Event}
    (mem : e ∈ timeline.take (timeline.findIdx (·.stop?.isSome))) : e.stop? = none := by
  obtain ⟨i, lt, rfl⟩ := List.mem_take_iff_getElem.1 mem
  have before := List.not_of_lt_findIdx (Nat.lt_of_lt_of_le lt (Nat.min_le_left _ _))
  simpa using before

/-- The first stop cuts the timeline into what is gone past and what is not, if there is one. -/
theorem goesTo_reading {config : Config} {random : Random} {start : String} {timeline : Timeline}
    {p : Playback} (h : p.Between config random start [] timeline) :
    ∃ q : Playback,
      p.GoesTo (reading config random start timeline).advances
        (reading config random start timeline).stopped q ∧
      q.snapshot = (reading config random start timeline).cursor ∧
      q.surface.log.toList = (reading config random start timeline).commands := by
  have passed : ∀ e ∈ timeline.take _, e.stop? = none := fun e => stop?_of_mem_take
  have within : timeline.findIdx (·.stop?.isSome) ≤ timeline.length := List.findIdx_le_length
  have stops (lt : timeline.findIdx (·.stop?.isSome) < timeline.length) :=
    List.findIdx_getElem (w := lt)
  simp only [reading]
  -- all that is needed of the place is what is before it and what is there
  generalize timeline.findIdx (·.stop?.isSome) = place at passed within stops ⊢
  rw [← List.take_append_drop place timeline] at h
  obtain ⟨m, between, leads⟩ := h.passes_all passed
  rw [List.nil_append] at between
  have length : (timeline.take place).length = place := List.length_take_of_le within
  obtain lt | rfl := Nat.lt_or_eq_of_le within
  · obtain ⟨stop, isStop⟩ := Option.isSome_iff_exists.1 (stops lt)
    rw [List.drop_eq_getElem_cons lt] at between
    obtain ⟨q, goes, cursor, log⟩ := between.stops isStop
    refine ⟨q, ?_, ?_, ?_⟩
    · rw [List.getElem?_eq_getElem lt, Option.bind_some, isStop]
      exact leads 0 stop q goes
    · rw [cursor, length, if_pos lt]
    · rw [log, ← List.take_append_getElem lt]
  · rw [List.drop_length] at between
    obtain ⟨q, goes, cursor, log⟩ := between.ends
    refine ⟨q, ?_, ?_, ?_⟩
    · rw [List.getElem?_eq_none (Nat.le_refl _)]
      exact leads 0 .ended q goes
    · rw [cursor, length, if_neg (Nat.lt_irrefl _)]
    · rw [log, List.take_of_length_le (Nat.le_succ _), List.take_length]

theorem advances_reading_le (config : Config) (random : Random) (start : String)
    (timeline : Timeline) :
    (reading config random start timeline).advances ≤ 2 * timeline.length := by
  have le := sum_downs_le (timeline.take (timeline.findIdx (·.stop?.isSome)))
  have taken := List.length_take_le' (timeline.findIdx (·.stop?.isSome)) timeline
  simp only [reading]
  omega

/-- What is reported of a timeline is read off its events, whatever they are. The pointer goes down
until there is a stop, with no bound to how often it may. -/
theorem run_eq_reading {registry : Registry} {start : String} {timeline : Timeline}
    (found : registry.find? start = some timeline) (config : Config) (stream : Random) :
    let report := reading config (config.seed.elim stream .ofSeed) start timeline
    run registry config start stream = .ok report ∧
      ∃ begun q, (Playback.ofConfig config (.ofCanvas config.canvas) stream).startKey registry start
        = .ok begun ∧ Halts begun report.advances report.stopped q := by
  intro report
  have between : ((beginner config start stream).readied timeline 0).Between config
      (config.seed.elim stream .ofSeed) start [] timeline :=
    Playback.between_readied timeline rfl rfl rfl rfl
  obtain ⟨q, halts, cursor, log⟩ := goesTo_reading between
  refine ⟨?_, _, q, startKey_beginner found config stream, halts⟩
  have enough : report.advances ≤ 2 * timeline.length + 1 :=
    Nat.le_succ_of_le (advances_reading_le config _ start timeline)
  rw [run_of_advanceAll found (halts.advanceAll enough 0), cursor, log, Nat.zero_add]
  rfl

/-- A sound that is asked for twice, a gate without options, a line with a speaker and one without,
an event without a meaning and a transition with something behind it. -/
def harbour : Registry :=
  Registry.insert {} "start" [.playSound ⟨"rain", true⟩, .playSound ⟨"rain", false⟩, .choice [],
    .dialog { text := "Land!", actorName := some "Ada", actorFillColor := some "red" }, .unknown,
    .dialog { text := "Hush." }, .clearSound "rain", .timelineTransition "deck", .clearDialog]

theorem harbour_reported :
    ∃ report, run harbour .default "start" = .ok report ∧
      report.cursor = ⟨some "start", 8⟩ ∧ report.stopped = .navigate (.restart "deck") ∧
      report.advances = 6 ∧
      report.commands = [.setAdvanceEnabled true, .playSound "rain" true,
        .setActorName "Ada" ⟨some "red", none⟩, .setDialogText "" {}, .setDialogText "Land!" {},
        .clearActorName, .setDialogText "" {}, .setDialogText "Hush." {}, .stopSound "rain"] := by
  obtain ⟨ran, -⟩ := run_eq_reading (show harbour.find? "start" = some _ from rfl) .default
    (.ofSeed 0)
  exact ⟨_, ran, rfl, rfl, rfl, rfl⟩

end Dump

end VisualNovel
