import VisualNovel.Proofs.Session.AtOnce
import VisualNovel.Proofs.Session.Watching

/-!
A session in which lines appear as time goes by, beside one in which they appear at once. While a
line is being shown the first session is behind; whenever it asks for something, or is over, both
have printed the same.
-/

namespace VisualNovel.Session

/-- The session as it would be if lines appeared at once, with other streams to draw from. -/
def plain (streams : Nat → Random) (s : Session) : Session :=
  { s with
    options.animate := false
    streams }

def Next.plain (streams : Nat → Random) (n : Next) : Next := (n.1.plain streams, n.2)

variable (streams : Nat → Random) {s : Session}

theorem plain_present (s : Session) (g : Progress) :
    (s.plain streams).present g = (s.present g).plain streams := by
  have shown : (if (s.plain streams).flush.options.debug then (s.plain streams).flush.showState
      else (s.plain streams).flush) =
        (if s.flush.options.debug then s.flush.showState else s.flush).plain streams := by
    have debug : (s.plain streams).flush.options.debug = s.flush.options.debug := rfl
    rw [debug]
    split <;> rfl
  unfold present
  dsimp only
  rw [shown]
  generalize (if s.flush.options.debug then s.flush.showState else s.flush) = t
  cases g with
  | navigate n =>
    simp only [route]
    split <;> rfl
  | _ => rfl

theorem plain_endInput (s : Session) :
    (s.plain streams).endInput = s.endInput.plain streams := by
  have phase : (s.plain streams).phase = s.phase := rfl
  simp only [endInput, phase]
  split <;> rfl

/-- A session in which lines appear as time goes by. -/
structure Animated (registry : Registry) (config : Config) (s : Session) : Prop where
  registry : s.registry = registry
  config : s.config = config
  player : s.playback.player.config = s.config
  animate : s.options.animate = true

/-- The session shows no line. -/
structure Rests (registry : Registry) (config : Config) (s : Session) : Prop
    extends Animated registry config s where
  quiet : s.playback.Quiet
  complete : s.Complete

/-- What a session has come to, and what the one without animation has come to meanwhile. That one
is ahead when a line has begun. -/
inductive Twins (registry : Registry) (config : Config) : Next → Next → Prop where
  | together {s : Session} (rests : Rests registry config s) (streams : Nat → Random)
      (next : Option String) : Twins registry config (s, next) (s.plain streams, next)
  | ahead {s : Session} {r : Reveal} (revealing : s.Revealing r) (steady : r.Steady)
      (interval : r.interval = s.config.typingInterval)
      (rests : Rests registry config (s.revealed r)) (streams : Nat → Random) :
      Twins registry config (s, none)
        (((s.revealed r).present .waitInput).1.plain streams, none)

variable {registry : Registry} {config : Config} {g : Progress}

theorem Animated.present (animated : Animated registry config s) (g : Progress) :
    Animated registry config (s.present g).1 := by
  obtain ⟨kept, playback, -⟩ := present_kept s g
  obtain ⟨_, moves, -⟩ := (Moves.refl (r := (g, s))).present.moves
  have config : (s.present g).1.config = s.config :=
    congrArg (fun settings : Registry × Config × Options => settings.2.1) moves.settings
  refine ⟨kept.trans animated.registry, config.trans animated.config, ?_, ?_⟩
  · rw [playback, config]
    exact animated.player
  · rw [present_options, animated.animate]

theorem Animated.playing (animated : Animated registry config s) {playback : Playback}
    (setUp : Playback.SetUpAs s.playback playback) :
    Animated registry config { s with playback } :=
  ⟨animated.registry, animated.config, setUp.1.trans animated.player, animated.animate⟩

theorem Animated.printLines (animated : Animated registry config s) (lines : List String) :
    Animated registry config (s.printLines lines) :=
  ⟨animated.registry, animated.config, animated.player, animated.animate⟩

namespace Rests

theorem present (rests : Rests registry config s) (g : Progress) :
    Rests registry config (s.present g).1 := by
  obtain ⟨-, playback, -⟩ := present_kept s g
  refine ⟨rests.toAnimated.present g, ?_, rests.complete.present g⟩
  rw [playback]
  exact rests.quiet.congr rfl

theorem printLines (rests : Rests registry config s) (lines : List String) :
    Rests registry config (s.printLines lines) :=
  ⟨rests.toAnimated.printLines lines, rests.quiet, rests.complete.congr rfl⟩

theorem finish (rests : Rests registry config s) {result : Except Failure Outcome}
    (timely : result ≠ .error .clock) : Rests registry config (s.finish result) :=
  ⟨⟨rests.registry, rests.config, rests.player, rests.animate⟩, rests.quiet, .finish s timely⟩

theorem noteRestart (rests : Rests registry config s) (key : String) :
    Rests registry config (s.noteRestart key) := by
  have player : (s.noteRestart key).playback.player = s.playback.player :=
    Playback.note_player s.playback _
  refine ⟨⟨rests.registry, rests.config, ?_, rests.animate⟩, rests.quiet.congr player,
    rests.complete.congr rfl⟩
  rw [player]
  exact rests.player

end Rests

/-- After a step both sessions go on together, or a line begins and is already there at once in the
one without animation. -/
theorem Animated.proceed (animated : Animated registry config s) (complete : s.Complete)
    (speaks : Playback.Speaks (g, s.playback)) :
    Twins registry config (s.proceed g) ((s.plain streams).proceed g) := by
  cases speaks with
  | @begun _ r begun fits timed =>
    -- what was done before the line is told by both; the time of the line goes by at once in one
    let t : Session := { s.flush with phase := .revealing 0 }
    have shows : s.proceed .typing = (t, none) := by
      simp only [Session.proceed, animated.animate, if_true]
      rfl
    have appears : (s.plain streams).proceed .typing =
        (((t.revealed r).present .waitInput).1.plain streams, none) := by
      have last : ((t.revealed r).present .waitInput).2 = none := (present_prompts rfl).1
      calc (s.plain streams).proceed .typing
        _ = ((s.plain streams).flush.revealed r).present .waitInput :=
          proceed_begun (s := s.plain streams) begun fits rfl
        _ = ((t.revealed r).plain streams).present .waitInput := rfl
        _ = ((t.revealed r).present .waitInput).plain streams := plain_present streams _ _
        _ = (((t.revealed r).present .waitInput).1.plain streams, none) := Prod.ext rfl last
    have steady : r.Steady := by
      refine ⟨begun.hidden, fits, ?_⟩
      rw [begun.fresh]
      rfl
    have interval : r.interval = t.config.typingInterval := by
      rw [begun.fresh, animated.player]
      rfl
    have rests : Rests registry config (t.revealed r) :=
      ⟨⟨animated.registry, animated.config, animated.player, animated.animate⟩,
        ⟨rfl, by rintro ⟨⟩, timed.congr rfl rfl⟩, ⟨by rintro _ ⟨⟩, by rintro ⟨⟩⟩⟩
    rw [shows, appears]
    exact .ahead (revealing_of_begun begun) steady interval rests streams
  | quiet other quiet =>
    rw [proceed_eq_present other, proceed_eq_present other, plain_present]
    have rests : Rests registry config s := ⟨animated, quiet, complete⟩
    exact .together (rests.present g) streams _

namespace Rests

theorem pressButton (rests : Rests registry config s) (id : Nat) :
    Twins registry config (s.pressButton id) ((s.plain streams).pressButton id) := by
  have step := Playback.press_step s.playback id
  have speaks := rests.quiet.step step
  have pressed := rests.toAnimated.playing (Playback.step_setUp step)
  have same : (s.plain streams).playback.press id = s.playback.press id := rfl
  unfold Session.pressButton
  rw [same]
  dsimp only
  generalize s.playback.press id = answer at speaks pressed ⊢
  obtain ⟨g, p⟩ := answer
  have complete : ({ s with playback := p } : Session).Complete := rests.complete.congr rfl
  dsimp only at speaks pressed ⊢
  split
  · split
    · exact (pressed.printLines _).proceed streams (complete.congr rfl) speaks
    · exact pressed.proceed streams complete speaks
  · exact pressed.proceed streams complete speaks

theorem obey (rests : Rests registry config s) (reply : Reply) :
    Twins registry config (s.obey reply) ((s.plain streams).obey reply) := by
  have again (lines : List String) : Twins registry config
      ((s.printLines lines).proceed s.playback.player.progress)
      (((s.plain streams).printLines lines).proceed s.playback.player.progress) :=
    (rests.printLines lines).toAnimated.proceed streams (rests.printLines lines).complete
      (.quiet rests.quiet.waits rests.quiet)
  cases reply with
  | quit => exact .together ((rests.printLines _).finish (by simp)) streams none
  | advance =>
    have step := Playback.advance_step s.playback
    exact (rests.toAnimated.playing (Playback.step_setUp step)).proceed streams
      (rests.complete.congr rfl) (rests.quiet.step step)
  | press id => exact rests.pressButton streams id
  | confirm =>
    have gate : (s.plain streams).playback.player.gate = s.playback.player.gate := rfl
    simp only [Session.obey]
    rw [gate]
    split
    · exact rests.pressButton streams _
    · exact again _
  | unknown text => exact again _

end Rests

section Seeded

variable {seed : Nat} (seeded : config.seed = some seed)
  (fits : ∀ key timeline, registry.find? key = some timeline → ∀ line, .dialog line ∈ timeline →
    config.typingInterval.FitsLine line.text)
include seeded

theorem plain_renew (given : s.config = config) :
    (s.plain streams).renew = s.renew.plain fun n => streams (n + 1) := by
  have player : Playback.ofConfig s.config s.playback.surface.reset (streams 0) =
      .ofConfig s.config s.playback.surface.reset (s.streams 0) := by
    rw [given, ofConfig_seeded seeded _ (streams 0), ofConfig_seeded seeded _ (s.streams 0)]
  exact congrArg (fun p : Playback => { s.renew.plain (fun n => streams (n + 1)) with
    playback := { p with records := s.playback.records } }) player

include fits

theorem Animated.activate (animated : Animated registry config s) (complete : s.Complete)
    (key : String) (index : Nat) :
    Twins registry config (s.activate key index) ((s.plain streams).activate key index) := by
  have renewed : Animated registry config s.renew :=
    ⟨animated.registry, animated.config, rfl, animated.animate⟩
  have still : s.renew.Complete := complete.congr rfl
  have same : (s.renew.plain fun n => streams (n + 1)).playback.startNamed
      (s.renew.plain fun n => streams (n + 1)).registry key index =
        s.renew.playback.startNamed s.renew.registry key index := rfl
  unfold Session.activate
  rw [plain_renew streams seeded animated.config]
  dsimp only
  rw [same]
  cases started : s.renew.playback.startNamed s.renew.registry key index with
  | error e =>
    have rests : Rests registry config s.renew := ⟨renewed, ⟨rfl, nofun, nofun⟩, still⟩
    exact .together (rests.finish (by simp)) _ none
  | ok m =>
    obtain ⟨timeline, found, rfl⟩ := Playback.startNamed_ok started
    rw [renewed.registry] at found
    let p : Playback := { s.renew.playback with player.timelineKey := some key }
    have timed (line : DialogLine) (mem : .dialog line ∈ timeline) :
        p.player.config.typingInterval.FitsLine line.text := by
      have config : p.player.config = config := animated.config
      rw [config]
      exact fits key timeline found line mem
    have named : Animated registry config { s.renew with playback := p } :=
      ⟨renewed.registry, renewed.config, renewed.player, renewed.animate⟩
    exact (named.playing (Playback.startAt_setUp p timeline index)).proceed _
      (complete.congr rfl) (Playback.startAt_speaks p timed index)

theorem Twins.follow {n m : Next} (twins : Twins registry config n m) (patience : Nat) :
    Twins registry config (Session.follow patience n, none) (Session.follow patience m, none) := by
  induction patience generalizing n m with
  | zero =>
    cases twins with
    | ahead revealing steady interval rests => exact .ahead revealing steady interval rests _
    | together rests streams next =>
      cases next with
      | none => exact .together rests streams none
      | some key => exact .together ((rests.noteRestart key).finish (by simp)) streams none
  | succ patience ih =>
    cases twins with
    | ahead revealing steady interval rests => exact .ahead revealing steady interval rests _
    | together rests streams next =>
      cases next with
      | none => exact .together rests streams none
      | some key =>
        -- both draw from the seed, so that the new players are the same
        have noted := rests.noteRestart key
        exact ih (noted.toAnimated.activate streams seeded fits noted.complete key 0)

theorem Rests.feed (rests : Rests registry config s) (line : Line) :
    Twins registry config (s.feed line, none) ((s.plain streams).feed line, none) := by
  have phase : (s.plain streams).phase = s.phase := rfl
  simp only [Session.feed, phase]
  split
  · cases line with
    | text content => exact (rests.obey streams _).follow seeded fits _
    | garbled => exact .together (rests.finish (by simp)) streams none
  · exact .together rests streams none

theorem start_twins (options : Options) (streams others : Nat → Random) :
    Twins registry config
      (start registry config { options with animate := true } streams, none)
      (start registry config { options with animate := false } others, none) := by
  let s : Session :=
    { registry, config, options := { options with animate := true },
      playback := .ofConfig config (.ofCanvas config.canvas), streams }
  have rests : Rests registry config s :=
    ⟨⟨rfl, rfl, rfl, rfl⟩, ⟨rfl, nofun, nofun⟩, ⟨nofun, nofun⟩⟩
  unfold start
  dsimp only
  cases registry.get options.start with
  | error e => exact .together (rests.finish (by simp)) others none
  | ok timeline =>
    have begins := rests.printLines controls
    exact (begins.toAnimated.activate others seeded fits begins.complete options.start
      (options.index.getD 0)).follow seeded fits maxIdleRestarts

omit seeded fits in
/-- Time brings the session to where the other one is, unless there is not enough of it. -/
theorem Twins.watchBy {t : Session} (twins : Twins registry config (s, none) (t, none))
    (clock : List Duration) :
    Stuck (s.watchBy clock).1 (s.watchBy clock).2 ∨
      ∃ streams, Rests registry config (s.watchBy clock).1 ∧
        t = (s.watchBy clock).1.plain streams := by
  cases twins with
  | together rests streams =>
    rw [rests.complete.watchBy]
    exact .inr ⟨streams, rests, rfl⟩
  | ahead revealing steady interval rests streams =>
    obtain stuck | shown := revealing.watchBy clock
    · exact .inl stuck
    · rw [shown]
      exact .inr ⟨streams, rests.present _, rfl⟩

/-- Whatever the clock tells, as long as it lets all lines be complete, the session without animation
comes to the same. -/
theorem Twins.attend {t : Session} (twins : Twins registry config (s, none) (t, none))
    {clock : List Duration} {lines : List Line} (complete : (s.attend clock lines).Complete) :
    ∃ streams, (lines.foldl Session.feed t).endInput = (s.attend clock lines).plain streams := by
  induction lines generalizing s t clock with
  | nil =>
    obtain stuck | ⟨streams, rests, rfl⟩ := twins.watchBy clock
    · rw [attend_stuck stuck] at complete
      exact (stuck.not_complete complete).elim
    · exact ⟨streams, plain_endInput streams _⟩
  | cons line rest ih =>
    obtain stuck | ⟨streams, rests, rfl⟩ := twins.watchBy clock
    · rw [attend_stuck stuck] at complete
      exact (stuck.not_complete complete).elim
    · exact ih (rests.feed streams seeded fits line) complete

omit seeded fits in
theorem Twins.watch {t : Session} (twins : Twins registry config (s, none) (t, none)) :
    ∃ streams clock, Rests registry config s.watch ∧ t = s.watch.plain streams ∧
      ∀ rest, s.watchBy (clock ++ rest) = (s.watch, rest) := by
  cases twins with
  | together rests streams =>
    have watched : s.watch = s := rests.complete.watchFor _
    rw [watched]
    exact ⟨streams, [], rests, rfl, rests.complete.watchBy⟩
  | @ahead _ r revealing steady interval rests streams =>
    have count : s.watch = s.watchFor r.charCount := by rw [Session.watch, revealing.shown]; rfl
    obtain ⟨shown, clock, reads⟩ := revealing.watchFor steady interval (Nat.le_add_left _ _)
    rw [count, shown]
    exact ⟨streams, clock, rests.present _, rfl, shown ▸ reads⟩

theorem Twins.play {t : Session} (twins : Twins registry config (s, none) (t, none))
    (lines : List Line) : ∃ clock, s.play lines = s.attend clock lines ∧
      (s.play lines).Complete := by
  induction lines generalizing s t with
  | nil =>
    obtain ⟨streams, clock, rests, -, reads⟩ := twins.watch
    have read := reads []
    rw [List.append_nil] at read
    exact ⟨clock, by rw [Session.attend, read]; rfl, rests.complete.endInput⟩
  | cons line rest ih =>
    obtain ⟨streams, clock, rests, -, reads⟩ := twins.watch
    obtain ⟨later, same, complete⟩ := ih (rests.feed streams seeded fits line)
    have played : s.play (line :: rest) = (s.watch.feed line).play rest := rfl
    refine ⟨clock ++ later, ?_, played ▸ complete⟩
    rw [Session.attend, reads later, played, same]

/-- A session whose time is simulated is one in which a clock is read, and all lines are complete. -/
theorem run_eq_attend (options : Options) (streams : Nat → Random) (lines : List Line) :
    ∃ clock, run registry config { options with animate := true } lines streams =
        (start registry config { options with animate := true } streams).attend clock lines ∧
      (run registry config { options with animate := true } lines streams).Complete :=
  (start_twins seeded fits options streams streams).play seeded fits lines

theorem attend_plain (options : Options) (streams others : Nat → Random) {clock : List Duration}
    {lines : List Line}
    (complete : ((start registry config { options with animate := true } streams).attend clock
      lines).Complete) :
    ∃ later, run registry config { options with animate := false } lines others =
      ((start registry config { options with animate := true } streams).attend clock lines).plain
        later := by
  have awaits : (start registry config { options with animate := false } others).Awaits registry :=
    awaits_start rfl
  have twins := start_twins seeded fits options streams others
  obtain ⟨later, same⟩ := twins.attend seeded fits complete
  exact ⟨later, by rw [run, awaits.play_eq, same]⟩

end Seeded

theorem feed_advance (prompting : s.phase = .prompting) (told : s.playback.advance.1 = g)
    (other : g ≠ .typing) :
    s.feed (.text "") =
      follow (maxIdleRestarts + 1) ({ s with playback := s.playback.advance.2 }.present g) := by
  have reply : Reply.ofLine "" = .advance := by decide
  simp only [feed, prompting, reply, obey, told]
  rw [proceed_eq_present other]

theorem present_ended (s : Session) :
    (s.present .ended).1.phase = .over (.ok (.ended s.playback.snapshot)) := by
  unfold present
  dsimp only
  split <;> rfl

/-- A pointer down behind the last event ends the session. -/
theorem feed_at_end (prompting : s.phase = .prompting)
    (navigation : s.playback.player.navigation = none)
    (enabled : s.playback.player.advanceEnabled = true)
    (unshown : s.playback.player.reveal = none) {timeline : Timeline}
    (plays : s.playback.player.timeline = some timeline)
    (behind : s.playback.player.index = timeline.length) :
    (s.feed (.text "")).phase = .over (.ok (.ended s.playback.snapshot)) := by
  have ran := Playback.advance_run navigation enabled unshown
  have ended : s.playback.run = (.ended, s.playback.note (.reachedEnd timeline.length)) := by
    simp [Playback.run, plays, behind, Playback.runThrough]
  rw [ended] at ran
  have place : s.playback.advance.2.snapshot = s.playback.snapshot := by
    simp [ran, Playback.snapshot]
  rw [feed_advance (g := .ended) prompting (by rw [ran]; rfl) (by simp), ← place]
  exact (congrArg phase (follow_none _ _)).trans (present_ended _)

/-- Without animation a pointer down completes a line that takes too long, and the session is left
at it. -/
theorem monologue_left {text : String} (long : ¬ config.typingInterval.FitsLine text)
    (streams : Nat → Random) :
    (run (monologue text) config { animate := false } [.text ""] streams).result? =
      some (.ok (.quit ⟨some "start", 0⟩)) := by
  obtain ⟨s, later, -, -, -, first, phase, player, -, -⟩ :=
    monologue_in_part long [.text ""] streams
  have awaits : (start (monologue text) config { animate := false } streams).Awaits _ :=
    awaits_start rfl
  rw [run, awaits.play_eq, List.foldl_cons, List.foldl_nil]
  generalize start (monologue text) config { animate := false } streams = t at phase player ⊢
  have completed := @Playback.advance_shown t.playback later
    (by rw [player]; exact first.begun.navigation) (by rw [player]; exact first.enabled)
    (by rw [player])
  let u : Session := { t with playback := t.playback.advance.2 }
  have fed : t.feed (.text "") = (u.present .waitInput).1 := by
    rw [feed_advance (g := .waitInput) phase (by rw [completed]; rfl) (by simp),
      follow_present _ rfl]
  have place : u.playback.looked.resumePoint = ⟨some "start", 0⟩ := by
    simp [u, completed, Playback.looked, Playback.resumePoint, Playback.isWaiting, player,
      first.index, first.named]
  rw [fed, endInput, (present_prompts rfl).2]
  change some (Except.ok (Outcome.quit (u.present .waitInput).1.playback.resumePoint)) = _
  rw [(present_kept u .waitInput).2.1, place]

/-- With animation it is complete after the time that it takes, and the pointer down leads on. -/
theorem monologue_in_full {text : String} {time : Duration} (nonempty : 0 < text.length)
    (inside : text.length < Reveal.countBound)
    (whole : time.nanos = config.typingInterval.nanos * text.length) (streams : Nat → Random) :
    ((start (monologue text) config {} streams).attend [time] [.text ""]).result? =
      some (.ok (.ended ⟨some "start", 1⟩)) := by
  obtain ⟨s, -, opened, animate, pace, first⟩ :=
    monologue_begins nonempty config true [] streams
  let r : Reveal := { text, interval := s.playback.player.config.typingInterval }
  let t : Session := { s.flush with phase := .revealing 0 }
  have started : start (monologue text) config {} streams = t := by
    rw [start_eq, opened, proceed, animate, if_pos rfl, follow_none]
  have revealing : t.Revealing r := revealing_of_begun first.begun
  have due : r.due time = r.charCount := Reveal.due_of_whole inside (by rw [whole, ← pace]; rfl)
  have ticked := Reveal.tick_more revealing.hidden (Duration.zero_add? time) (due ▸ nonempty)
  let v : Session := ((t.revealed r).present .waitInput).1
  have woken : t.wake time = v :=
    revealing.wake_complete ticked (decide_eq_true (Nat.le_of_eq due.symm))
  have player : v.playback.player =
      { s.playback.player with reveal := none, progress := .waitInput } := by
    rw [(present_kept _ _).2.1]
    rfl
  have read : t.watchBy [time] = (v, []) := by
    simp only [watchBy, revealing.phase, woken]
  have plays : v.playback.player.timeline = some [.dialog { text }] := by
    rw [player]
    exact first.timeline
  have behind : v.playback.player.index = 1 := by rw [player]; exact first.index
  have ended : (v.feed (.text "")).phase = .over (.ok (.ended v.playback.snapshot)) := by
    refine feed_at_end (present_prompts rfl).2 ?_ ?_ ?_ plays behind
    all_goals rw [player]
    · exact first.begun.navigation
    · exact first.enabled
  have place : v.playback.snapshot = ⟨some "start", 1⟩ := by
    simp [Playback.snapshot, player, first.index, first.named]
  rw [started, attend, read, attend, watchBy, endInput, ended, result?, ended, place]

/-- Animation changes nothing but the time that a session takes, where the time of each line is a
span and a line that takes any time has fewer than `2 ^ 32` characters. However the clock cuts the
time, as long as each line is complete in the end, the session prints the same and comes to the same
outcome or failure as one in which lines appear at once. The options may ask for the state to be
told. There is always such a clock: one in which the time is simulated. -/
theorem attend_eq_run {seed : Nat} (seeded : config.seed = some seed)
    (fits : ∀ text, registry.HasLine text →
      config.typingInterval.nanos * text.length ≤ Duration.longest.nanos)
    (countable : ∀ text, registry.HasLine text →
      config.typingInterval.nanos = 0 ∨ text.length < twoTo 32)
    (options : Options) (streams others : Nat → Random) (lines : List Line) :
    (∀ clock,
      ((start registry config { options with animate := true } streams).attend clock
        lines).Complete →
      ((start registry config { options with animate := true } streams).attend clock lines).output =
          (run registry config { options with animate := false } lines others).output ∧
        ((start registry config { options with animate := true } streams).attend clock
            lines).result? =
          (run registry config { options with animate := false } lines others).result?) ∧
      ∃ clock, run registry config { options with animate := true } lines streams =
          (start registry config { options with animate := true } streams).attend clock lines ∧
        (run registry config { options with animate := true } lines streams).Complete := by
  have reckoned (key : String) (timeline : Timeline) (found : registry.find? key = some timeline)
      (line : DialogLine) (mem : .dialog line ∈ timeline) :
      config.typingInterval.FitsLine line.text := by
    have has : registry.HasLine line.text := ⟨key, timeline, line, found, mem, rfl⟩
    exact Duration.fitsLine_iff.2 ((countable _ has).imp_right fun inside => ⟨inside, fits _ has⟩)
  refine ⟨fun clock complete => ?_, run_eq_attend seeded reckoned options streams lines⟩
  obtain ⟨later, same⟩ := attend_plain seeded reckoned options streams others complete
  rw [same]
  exact ⟨rfl, rfl⟩

/-- A scene with a sound, a speaker, and a line in which not every character is one byte. -/
def quay : Registry :=
  Registry.insert {} "start" [.playSound ⟨"waves", true⟩,
    .dialog { text := "Grüß dich", actorName := some "Käthe" }, .choice [⟨"Go", "start"⟩]]

/-- A clock that stands still, and lags, and leaps. -/
def unsteady : List Duration := [.zero, .ofMillis 120, .ofMillis 7, .ofMillis 4000, .ofMillis 4000]

theorem eq_of_quay_hasLine {text : String} (has : quay.HasLine text) : text = "Grüß dich" := by
  obtain ⟨key, timeline, line, found, mem, rfl⟩ := has
  have entry : (key, timeline) ∈ quay.timelines.entries := Dict.mem_of_get? found
  obtain ⟨rfl, rfl⟩ := Prod.mk.inj (List.mem_singleton.1 entry)
  obtain rfl : line = { text := "Grüß dich", actorName := some "Käthe" } := by simpa using mem
  rfl

theorem quay_animated :
    ((start quay seededConfig { debug := true }).attend unsteady
        [.text "", .text "1", .text "q"]).result? = some (.ok (.quit ⟨some "start", 1⟩)) ∧
      ((start quay seededConfig { debug := true }).attend unsteady
          [.text "", .text "1", .text "q"]).output =
        (run quay seededConfig { debug := true, animate := false }
          [.text "", .text "1", .text "q"]).output := by
  have quit : ((start quay seededConfig { debug := true }).attend unsteady
      [.text "", .text "1", .text "q"]).result? = some (.ok (.quit ⟨some "start", 1⟩)) := rfl
  have complete : ((start quay seededConfig { debug := true }).attend unsteady
      [.text "", .text "1", .text "q"]).Complete := ⟨nofun, nofun⟩
  have fits (text : String) (has : quay.HasLine text) :
      seededConfig.typingInterval.nanos * text.length ≤ Duration.longest.nanos := by
    rw [eq_of_quay_hasLine has]
    decide
  have countable (text : String) (has : quay.HasLine text) :
      seededConfig.typingInterval.nanos = 0 ∨ text.length < twoTo 32 := by
    rw [eq_of_quay_hasLine has]
    decide
  have same := (attend_eq_run rfl fits countable { debug := true }
    (fun _ => .ofSeed 0) (fun _ => .ofSeed 0) [.text "", .text "1", .text "q"]).1 unsteady complete
  exact ⟨quit, same.1⟩

def brisk : Config := { seededConfig with typingIntervalMs := 1 }

/-- A line of so many characters takes fifty days, and yet, when it should appear at once, its
characters are not all counted: the pointer goes down for the last one, and not for what comes
next. -/
theorem uncounted_line_differs :
    brisk.seed = some 7 ∧
      (∀ text, (monologue (drawl (twoTo 32))).HasLine text →
        brisk.typingInterval.nanos * text.length ≤ Duration.longest.nanos) ∧
      ((start (monologue (drawl (twoTo 32))) brisk {}).attend [.ofMillis (twoTo 32)]
        [.text ""]).Complete ∧
      ((start (monologue (drawl (twoTo 32))) brisk {}).attend [.ofMillis (twoTo 32)]
        [.text ""]).result? = some (.ok (.ended ⟨some "start", 1⟩)) ∧
      (run (monologue (drawl (twoTo 32))) brisk { animate := false } [.text ""]).result? =
        some (.ok (.quit ⟨some "start", 0⟩)) := by
  have fits : brisk.typingInterval.nanos * (drawl (twoTo 32)).length ≤ Duration.longest.nanos := by
    rw [length_drawl]
    decide
  have full : ((start (monologue (drawl (twoTo 32))) brisk {}).attend [.ofMillis (twoTo 32)]
      [.text ""]).result? = some (.ok (.ended ⟨some "start", 1⟩)) := by
    refine monologue_in_full ?_ ?_ ?_ _ <;> rw [length_drawl] <;> decide
  have long : ¬ brisk.typingInterval.FitsLine (drawl (twoTo 32)) := by
    rw [Duration.fitsLine_iff, length_drawl]
    rintro (instant | ⟨countable, -⟩)
    · revert instant
      decide
    · exact Nat.lt_irrefl _ countable
  exact ⟨rfl, fun text has => eq_of_monologue_hasLine has ▸ fits, .of_result full, full,
    monologue_left long _⟩

end VisualNovel.Session
