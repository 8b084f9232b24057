import VisualNovel.Proofs.Playback.Calls
import VisualNovel.View.Basic

namespace VisualNovel

/-- A command that does nothing but show a text. -/
def Command.IsText : Command → Prop
  | .setDialogText _ _ => True
  | _ => False

/-- The time that the characters of a line take together fits in a span: nothing is lost when it is
reckoned, with a count of 32 bits as for every multiple of a span. -/
def Duration.FitsLine (interval : Duration) (text : String) : Prop :=
  (interval.times (min text.length (twoTo 32 - 1))).nanos = interval.nanos * text.length

instance (interval : Duration) (text : String) : Decidable (interval.FitsLine text) :=
  inferInstanceAs (Decidable (_ = _))

/-- This says that a line that takes any time at all can be counted, and that the product is a
span. -/
theorem Duration.fitsLine_iff {interval : Duration} {text : String} :
    interval.FitsLine text ↔ interval.nanos = 0 ∨
      text.length < twoTo 32 ∧ interval.nanos * text.length ≤ longest.nanos := by
  rw [FitsLine, times, nanos_saturating]
  by_cases countable : text.length < twoTo 32
  · have count : min text.length (twoTo 32 - 1) = text.length := by omega
    have instant (none : interval.nanos = 0) : interval.nanos * text.length = 0 := by simp [none]
    rw [count]
    omega
  · -- a count that was cut is too small for any span of time
    have count : min text.length (twoTo 32 - 1) < text.length := by
      have positive := twoTo_pos 32
      omega
    have less (slow : 0 < interval.nanos) : interval.nanos * min text.length (twoTo 32 - 1) <
        interval.nanos * text.length := Nat.mul_lt_mul_of_pos_left count slow
    have instant (none : interval.nanos = 0) (n : Nat) : interval.nanos * n = 0 := by simp [none]
    constructor
    · intro same
      refine .inl (Nat.eq_zero_of_not_pos fun slow => ?_)
      have lost := less slow
      omega
    · rintro (none | ⟨inside, -⟩)
      · rw [instant none, instant none]
        rfl
      · exact (countable inside).elim

/-- A line that can be counted and does not fit takes all the time that there is. -/
theorem Duration.times_of_not_fitsLine {interval : Duration} {text : String}
    (countable : text.length < twoTo 32) (long : ¬ interval.FitsLine text) :
    interval.times (min text.length (twoTo 32 - 1)) = longest := by
  have count : min text.length (twoTo 32 - 1) = text.length := by omega
  have outside : ¬ interval.nanos * text.length < twoTo 64 * nanosPerSecond := by
    intro inside
    refine long (fitsLine_iff.2 (.inr ⟨countable, ?_⟩))
    exact Nat.le_sub_one_of_lt inside
  rw [count, times, saturating, ofNanos?, dif_neg outside]
  rfl

theorem Duration.FitsLine.length_lt {interval : Duration} {text : String}
    (fits : interval.FitsLine text) (slow : interval.nanos ≠ 0) : text.length < twoTo 32 := by
  have reckoned : interval.nanos * text.length ≤
      interval.nanos * min text.length (twoTo 32 - 1) := by
    rw [← fits, times, nanos_saturating]
    exact Nat.min_le_left _ _
  have le : text.length ≤ min text.length (twoTo 32 - 1) :=
    Nat.le_of_mul_le_mul_left reckoned (Nat.pos_of_ne_zero slow)
  have positive : 0 < twoTo 32 := twoTo_pos 32
  omega

namespace Reveal

theorem visible_of_complete {r : Reveal} (h : r.isComplete = true) : r.visible = r.text := by
  have long : r.text.toList.length ≤ r.shown := by
    rw [String.length_toList]
    exact of_decide_eq_true h
  rw [visible, List.take_of_length_le long, String.ofList_toList]

theorem due_of_whole {r : Reveal} {time : Duration} (inside : r.charCount < countBound)
    (whole : time.nanos = r.interval.nanos * r.charCount) : r.due time = r.charCount := by
  unfold due
  split
  · rfl
  · next slow =>
    rw [whole, Nat.mul_div_cancel_left _ (Nat.pos_of_ne_zero slow), Nat.mod_eq_of_lt inside,
      Nat.min_self]

theorem due_whole {r : Reveal} (fits : r.interval.FitsLine r.text) :
    r.due (r.interval.times (min r.charCount (twoTo 32 - 1))) = r.charCount := by
  by_cases instant : r.interval.nanos = 0
  · exact if_pos instant
  · exact due_of_whole (Nat.lt_trans (fits.length_lt instant) (by decide)) fits

/-- When that time cannot be reckoned, not all characters are due after it. -/
theorem due_part {r : Reveal} (long : ¬ r.interval.FitsLine r.text) :
    r.due (r.interval.times (min r.charCount (twoTo 32 - 1))) < r.charCount := by
  unfold due
  split
  · next instant => exact (long (Duration.fitsLine_iff.2 (.inl instant))).elim
  · next slow =>
    have short : (r.interval.times (min r.charCount (twoTo 32 - 1))).nanos <
        r.charCount * r.interval.nanos := by
      refine Nat.lt_of_le_of_ne ?_ ?_
      · rw [Duration.times, Duration.nanos_saturating, Nat.mul_comm r.charCount]
        exact Nat.le_trans (Nat.min_le_left _ _) (Nat.mul_le_mul_left _ (Nat.min_le_left _ _))
      · rw [Nat.mul_comm r.charCount]
        exact long
    have part := (Nat.div_lt_iff_lt_mul (Nat.pos_of_ne_zero slow)).2 short
    have word := Nat.mod_le
      ((r.interval.times (min r.charCount (twoTo 32 - 1))).nanos / r.interval.nanos) countBound
    omega

theorem tick_cases {r later : Reveal} {time : Duration} {more : Bool} (hidden : r.isComplete = false)
    (ticked : r.tick time = .ok (more, later)) :
    later.text = r.text ∧
      (more = true ∧ r.shown < later.shown ∨ more = false ∧ later.shown = r.shown) := by
  unfold tick at ticked
  rw [hidden, if_neg Bool.false_ne_true] at ticked
  split at ticked
  · cases ticked
  · dsimp only at ticked
    split at ticked
    · next new =>
      cases ticked
      exact ⟨rfl, .inl ⟨rfl, new⟩⟩
    · cases ticked
      exact ⟨rfl, .inr ⟨rfl, rfl⟩⟩

theorem nonempty_of_hidden {r : Reveal} (hidden : r.isComplete = false) : r.text.isEmpty = false := by
  refine Bool.eq_false_iff.2 fun empty => ?_
  have complete : r.isComplete = true := by
    rw [isComplete, charCount, String.isEmpty_iff.1 empty]
    exact decide_eq_true (Nat.zero_le _)
  rw [hidden] at complete
  cases complete

theorem isComplete_congr {r later : Reveal} (text : later.text = r.text)
    (shown : later.shown = r.shown) : later.isComplete = r.isComplete := by
  rw [isComplete, isComplete, charCount, charCount, text, shown]

theorem tick_more {r : Reveal} {time elapsed : Duration} (hidden : r.isComplete = false)
    (added : r.elapsed.add? time = some elapsed) (more : r.shown < r.due elapsed) :
    r.tick time = .ok (true, { r with elapsed, shown := r.due elapsed }) := by
  unfold tick
  rw [hidden, if_neg Bool.false_ne_true, added]
  simp only [if_pos more]

/-- No more time can go by once the clock tells the longest span. -/
theorem tick_spent {r : Reveal} {time : Duration} (hidden : r.isComplete = false)
    (spent : r.elapsed = .longest) (more : 0 < time.nanos) : r.tick time = .error {} := by
  have late : r.elapsed.add? time = none := by
    rw [spent, Duration.add?, Duration.ofNanos?, dif_neg]
    simp only [Duration.longest]
    have positive : 0 < twoTo 64 * nanosPerSecond := by decide
    omega
  unfold tick
  rw [hidden, if_neg Bool.false_ne_true, late]

end Reveal

namespace Playback

/-- The player when the line that it shows is complete. -/
def completed (p : Playback) (r : Reveal) : Playback :=
  { p with
    player.reveal := none
    player.progress := .waitInput
    surface := p.surface.perform (.setDialogText r.text p.player.dialogStyle) }

section Shown

variable {p : Playback} {r later : Reveal} {time : Duration} {more : Bool}
  (navigation : p.player.navigation = none) (shown : p.player.reveal = some r)
include navigation shown

theorem tick_overflow {e : ClockOverflow} (ticked : r.tick time = .error e) :
    p.tick time = .error e := by
  unfold tick
  rw [if_neg (by simp [navigation])]
  simp only [shown, ticked, bind, Except.bind]

variable (hidden : r.isComplete = false)
include hidden

/-- While a line is not complete, the part of it that is shown replaces what was shown before. -/
theorem tick_showing (visible : p.surface.stage.dialogText = r.visible)
    (ticked : r.tick time = .ok (more, later)) (incomplete : later.isComplete = false) :
    ∃ surface : Surface,
      p.tick time = .ok (.typing, { p with player.reveal := some later, surface }) ∧
      surface.stage = { p.surface.stage with dialogText := later.visible } ∧
      ∀ c ∈ surface.log.toList, c ∈ p.surface.log.toList ∨ c.IsText := by
  unfold tick
  rw [if_neg (by simp [navigation])]
  simp only [shown, ticked, bind, Except.bind, pure, Except.pure]
  obtain ⟨text, ⟨rfl, new⟩ | ⟨rfl, same⟩⟩ := Reveal.tick_cases hidden ticked
  · rw [if_pos rfl, if_neg (by simp [incomplete])]
    refine ⟨_, rfl, rfl, ?_⟩
    intro c mem
    rw [Surface.log_perform, List.mem_append, List.mem_singleton] at mem
    obtain earlier | rfl := mem
    · exact .inl earlier
    · exact .inr trivial
  · have still : later.visible = r.visible := by rw [Reveal.visible, text, same]; rfl
    rw [if_neg Bool.false_ne_true, if_neg (by simp [incomplete])]
    refine ⟨p.surface, rfl, ?_, fun c mem => .inl mem⟩
    rw [still, ← visible]

theorem tick_complete (ticked : r.tick time = .ok (more, later))
    (complete : later.isComplete = true) :
    p.tick time = .ok (.waitInput, p.completed r) := by
  obtain ⟨text, ⟨rfl, new⟩ | ⟨rfl, same⟩⟩ := Reveal.tick_cases hidden ticked
  · unfold tick
    rw [if_neg (by simp [navigation])]
    simp only [shown, ticked, bind, Except.bind, pure, Except.pure, if_true, complete,
      Reveal.visible_of_complete complete, text]
    rfl
  · rw [Reveal.isComplete_congr text same, hidden] at complete
    cases complete

end Shown

/-- A player that has begun to show a line. -/
structure Begun (p : Playback) (r : Reveal) : Prop where
  shown : p.player.reveal = some r
  fresh : r = { text := r.text, interval := p.player.config.typingInterval }
  hidden : r.isComplete = false
  navigation : p.player.navigation = none
  blank : p.surface.stage.dialogText = ""
  silent : p.surface.log.toList.foldl View.line none = none

/-- After the time that its characters take together, a line that has begun is complete. -/
theorem Begun.revealed_at_once {p : Playback} {r : Reveal} (begun : p.Begun r)
    (fits : r.interval.FitsLine r.text) :
    p.tick (r.interval.times (min r.charCount (twoTo 32 - 1))) = .ok (.waitInput, p.completed r) := by
  generalize reckoned : r.interval.times (min r.charCount (twoTo 32 - 1)) = time
  have added : r.elapsed.add? time = some time := by
    rw [begun.fresh]
    exact time.zero_add?
  have due : r.due time = r.charCount := by
    rw [← reckoned]
    exact Reveal.due_whole fits
  have more : r.shown < r.due time := by
    rw [due]
    exact Nat.lt_of_not_le (of_decide_eq_false begun.hidden)
  refine tick_complete begun.navigation begun.shown begun.hidden
    (Reveal.tick_more begun.hidden added more) ?_
  exact decide_eq_true (Nat.le_of_eq due.symm)

/-- A line whose time cannot be reckoned is still being shown after as much of it as there is. -/
theorem Begun.revealed_in_part {p : Playback} {r : Reveal} (begun : p.Begun r)
    (long : ¬ r.interval.FitsLine r.text) :
    ∃ (later : Reveal) (surface : Surface),
      p.tick (r.interval.times (min r.charCount (twoTo 32 - 1))) =
        .ok (.typing, { p with player.reveal := some later, surface }) ∧
      later = { r with
        elapsed := r.interval.times (min r.charCount (twoTo 32 - 1))
        shown := later.shown } ∧ later.isComplete = false := by
  have due := Reveal.due_part long
  generalize r.interval.times (min r.charCount (twoTo 32 - 1)) = time at due ⊢
  have added : r.elapsed.add? time = some time := by
    rw [begun.fresh]
    exact time.zero_add?
  have visible : p.surface.stage.dialogText = r.visible := by
    rw [begun.blank, begun.fresh]
    rfl
  obtain ⟨more, later, ticked, same, incomplete⟩ : ∃ (more : Bool) (later : Reveal),
      r.tick time = .ok (more, later) ∧
        later = { r with elapsed := time, shown := later.shown } ∧ later.isComplete = false := by
    unfold Reveal.tick
    rw [begun.hidden, if_neg Bool.false_ne_true, added]
    dsimp only
    split
    · exact ⟨_, _, rfl, rfl, decide_eq_false (Nat.not_le_of_lt due)⟩
    · exact ⟨_, _, rfl, rfl, begun.hidden⟩
  obtain ⟨surface, shows, -, -⟩ :=
    tick_showing begun.navigation begun.shown begun.hidden visible ticked incomplete
  exact ⟨later, surface, shows, same, incomplete⟩

/-- Each line of the timeline that is played is such a text. -/
def Recites (such : String → Prop) (p : Playback) : Prop :=
  ∀ timeline, p.player.timeline = some timeline → ∀ line, .dialog line ∈ timeline → such line.text

/-- A player that shows no line. -/
structure Silent (such : String → Prop) (p : Playback) : Prop where
  unshown : p.player.reveal = none
  waits : p.player.progress ≠ .typing
  recites : p.Recites such

/-- The answer of a player: it has begun to show a line of its timeline, or it shows none. -/
inductive Begins (such : String → Prop) : Progress × Playback → Prop where
  | begun {p : Playback} {r : Reveal} (begun : p.Begun r) (text : such r.text)
      (recites : p.Recites such) : Begins such (.typing, p)
  | silent {g : Progress} {p : Playback} (other : g ≠ .typing) (silent : p.Silent such) :
      Begins such (g, p)

variable {such : String → Prop} {p q : Playback} {g : Progress}

theorem Begun.congr {r : Reveal} (begun : p.Begun r) (player : q.player = p.player)
    (surface : q.surface = p.surface) : q.Begun r := by
  refine ⟨?_, ?_, begun.hidden, ?_, ?_, ?_⟩
  · rw [player]; exact begun.shown
  · rw [player]; exact begun.fresh
  · rw [player]; exact begun.navigation
  · rw [surface]; exact begun.blank
  · rw [surface]; exact begun.silent

theorem Begun.settle {r : Reveal} (begun : p.Begun r) (g : Progress) :
    (p.settle g).2.Begun r :=
  ⟨begun.shown, begun.fresh, begun.hidden, begun.navigation, begun.blank, begun.silent⟩

theorem Recites.congr (recites : p.Recites such)
    (timeline : q.player.timeline = p.player.timeline) : q.Recites such := by
  rw [Recites, timeline]
  exact recites

theorem Silent.congr (silent : p.Silent such) (player : q.player = p.player) : q.Silent such := by
  refine ⟨?_, ?_, silent.recites.congr (by rw [player])⟩
  · rw [player]; exact silent.unshown
  · rw [player]; exact silent.waits

theorem Begins.congr (begins : Begins such (g, p)) (player : q.player = p.player)
    (surface : q.surface = p.surface) : Begins such (g, q) := by
  cases begins with
  | begun begun text recites =>
    exact .begun (begun.congr player surface) text (recites.congr (by rw [player]))
  | silent other silent => exact .silent other (silent.congr player)

/-- A line begins with an empty text, and after everything else that was done before. -/
theorem showLine_begun (navigation : p.player.navigation = none) {line : DialogLine}
    (shown : (p.showLine line).1 = .typing) :
    (p.showLine line).2.Begun { text := line.text, interval := p.player.config.typingInterval } := by
  unfold showLine at shown ⊢
  dsimp only at shown ⊢
  split at shown
  · cases shown
  · next hidden =>
    rw [if_neg hidden]
    refine ⟨rfl, rfl, Bool.eq_false_iff.2 hidden, navigation, rfl, ?_⟩
    simp [perform, Surface.log_perform, View.line]

theorem block_begins (navigation : p.player.navigation = none) (unshown : p.player.reveal = none)
    (recites : p.Recites such) {e : Event} (text : ∀ line, e = .dialog line → such line.text) :
    Begins such ((p.block e).2.settle (p.block e).1) := by
  have blocked := block_blocked p e
  have begins (line : DialogLine) (same : e = .dialog line) (typing : (p.block e).1 = .typing) :
      (p.block e).2.Begun { text := line.text, interval := p.player.config.typingInterval } := by
    subst same
    exact showLine_begun navigation typing
  generalize p.block e = r at blocked begins ⊢
  obtain ⟨g, m⟩ := r
  dsimp only at blocked begins ⊢
  cases blocked with
  | @typing line style reveal same hidden player surface =>
    refine .begun ((begins line rfl rfl).settle _) (text line rfl) (recites.congr ?_)
    simp [player]
  | waiting player surface | stalled player surface | restart player surface
  | scene player surface | gate opens player surface =>
    refine .silent nofun ⟨?_, nofun, recites.congr ?_⟩
    · simp [player, unshown]
    · simp [player]

theorem run_begins (navigation : p.player.navigation = none) (unshown : p.player.reveal = none)
    (recites : p.Recites such) : Begins such (p.run.2.settle p.run.1) := by
  unfold run
  cases plays : p.player.timeline with
  | none => exact .silent nofun ⟨unshown, nofun, recites.congr rfl⟩
  | some timeline =>
    dsimp only
    obtain ⟨q, passed, ended⟩ | ⟨q, events, e, rest, left, passed, -, stopped⟩ :=
      runThrough_cases p (timeline.drop p.player.index)
    · rw [ended]
      refine .silent nofun ⟨?_, nofun, recites.congr ?_⟩
      · simp [passed.player, unshown]
      · simp [passed.player]
    · rw [stopped]
      have mem : e ∈ timeline := List.mem_of_mem_drop (left ▸ List.mem_append_right events
        List.mem_cons_self)
      refine block_begins ?_ ?_ (recites.congr ?_) ?_
      · simp [passed.player, navigation]
      · simp [passed.player, unshown]
      · simp [passed.player]
      · rintro line rfl
        exact recites timeline plays line mem

theorem startAt_begins (p : Playback) {timeline : Timeline}
    (recites : ∀ line, .dialog line ∈ timeline → such line.text) (index : Nat) :
    Begins such (p.startAt timeline index) := by
  have ready := p.readied_ready timeline index
  refine run_begins (p := p.readied timeline index) ready.navigation ready.reveal ?_
  rw [Recites, ready.timeline]
  rintro _ ⟨⟩
  exact recites

/-- No call finds a line half shown. -/
theorem Silent.step (silent : p.Silent such) {c : Call} (step : Step p q c g) :
    Begins such (g, q) := by
  have recites := silent.recites
  cases step with
  | finished navigation same => exact .silent nofun (same ▸ silent)
  | ungated navigation gate same | unshown navigation reveal same =>
    exact .silent silent.waits (same ▸ silent)
  | ignored navigation enabled player surface => exact .silent silent.waits (silent.congr player)
  | refused navigation gated pressed player surface
  | toggled navigation gated pressed player surface =>
    refine .silent silent.waits ⟨?_, ?_, recites.congr ?_⟩
    · rw [player]; exact silent.unshown
    · rw [player]; exact silent.waits
    · rw [player]
  | resolved navigation gated pressed player surface
  | fellBack navigation gated pressed player surface =>
    refine .silent nofun ⟨?_, ?_, recites.congr ?_⟩
    · rw [player]; exact silent.unshown
    · rw [player]; exact nofun
    · rw [player]
  | completed navigation enabled shown player surface
  | showing navigation shown ticked incomplete player surface
  | shown navigation shown ticked complete player surface =>
    rw [silent.unshown] at shown
    cases shown
  | @ran m g navigation enabled reveal run player surface =>
    have begins : Begins such (m.settle g) := by
      have ran := run_begins navigation reveal recites
      rwa [run] at ran
    exact begins.congr player surface

/-- The time of each line of the timeline that is played can be reckoned. -/
def Timed (p : Playback) : Prop :=
  ∀ timeline, p.player.timeline = some timeline → ∀ line, .dialog line ∈ timeline →
    p.player.config.typingInterval.FitsLine line.text

structure Quiet (p : Playback) : Prop where
  unshown : p.player.reveal = none
  waits : p.player.progress ≠ .typing
  timed : p.Timed

/-- The answer of a player: it has begun to show a line, or it shows none. -/
inductive Speaks : Progress × Playback → Prop where
  | begun {p : Playback} {r : Reveal} (begun : p.Begun r) (fits : r.interval.FitsLine r.text)
      (timed : p.Timed) : Speaks (.typing, p)
  | quiet {g : Progress} {p : Playback} (other : g ≠ .typing) (quiet : p.Quiet) : Speaks (g, p)

theorem Timed.congr (timed : p.Timed) (timeline : q.player.timeline = p.player.timeline)
    (config : q.player.config = p.player.config) : q.Timed := by
  rw [Timed, timeline, config]
  exact timed

theorem Quiet.congr (quiet : p.Quiet) (player : q.player = p.player) : q.Quiet := by
  refine ⟨?_, ?_, quiet.timed.congr (by rw [player]) (by rw [player])⟩
  · rw [player]; exact quiet.unshown
  · rw [player]; exact quiet.waits

theorem Begins.speaks {interval : Duration} (begins : Begins interval.FitsLine (g, p))
    (config : p.player.config.typingInterval = interval) : Speaks (g, p) := by
  subst config
  cases begins with
  | begun begun fits timed =>
    refine .begun begun ?_ timed
    rw [begun.fresh]
    exact fits
  | silent other silent => exact .quiet other ⟨silent.unshown, silent.waits, silent.recites⟩

theorem startAt_speaks (p : Playback) {timeline : Timeline}
    (fits : ∀ line, .dialog line ∈ timeline → p.player.config.typingInterval.FitsLine line.text)
    (index : Nat) : Speaks (p.startAt timeline index) :=
  (startAt_begins p fits index).speaks
    (congrArg Config.typingInterval (startAt_setUp p timeline index).1)

theorem Quiet.step (quiet : p.Quiet) {c : Call} (step : Step p q c g) : Speaks (g, q) := by
  have silent : p.Silent p.player.config.typingInterval.FitsLine :=
    ⟨quiet.unshown, quiet.waits, quiet.timed⟩
  exact (silent.step step).speaks (congrArg Config.typingInterval (step_setUp step).1)

end Playback

end VisualNovel
