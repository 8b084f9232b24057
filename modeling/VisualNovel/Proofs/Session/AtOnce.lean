import VisualNovel.Proofs.Session.Patience
import VisualNovel.Proofs.Session.Revealing

/-!
Lines that appear at once. A session without animation lets as much time go by as a line takes, in
one step; so the line is complete after it exactly when that time can be reckoned. The clock of a
line that is not complete then may run over when it is looked at again.
-/

namespace VisualNovel

def Registry.HasLine (r : Registry) (text : String) : Prop :=
  ∃ key timeline line, r.find? key = some timeline ∧ .dialog line ∈ timeline ∧ line.text = text

/-- A player that has begun a timeline with its first event, which is a line. -/
structure Playback.BeginsWith (p : Playback) (key : String) (line : DialogLine) (rest : Timeline) :
    Prop where
  begun : p.Begun { text := line.text, interval := p.player.config.typingInterval }
  timeline : p.player.timeline = some (.dialog line :: rest)
  named : p.player.timelineKey = some key
  index : p.player.index = 1
  gate : p.player.gate = none
  enabled : p.player.advanceEnabled = true
  progress : p.player.progress = .typing

theorem Playback.startAt_line {p : Playback} {key : String}
    (named : p.player.timelineKey = some key) (line : DialogLine) (rest : Timeline)
    (nonempty : 0 < line.text.length) :
    ∃ q, p.startAt (.dialog line :: rest) 0 = (.typing, q) ∧ q.BeginsWith key line rest := by
  have there : (Event.dialog line :: rest)[0]? = some (.dialog line) := rfl
  obtain ⟨m, ready, name, start, -⟩ := startAt_stop p there rfl
  let n : Playback := m.passing (.dialog line)
  have hidden (interval : Duration) :
      ({ text := line.text, interval } : Reveal).isComplete = false :=
    decide_eq_false (Nat.not_le_of_lt nonempty)
  have typing : (n.showLine line).1 = .typing := by
    unfold showLine
    dsimp only
    rw [hidden, if_neg Bool.false_ne_true]
  have same : (n.block (.dialog line)).2.settle (n.block (.dialog line)).1 =
      (.typing, ((n.showLine line).2.settle .typing).2) := Prod.ext typing (by rw [← typing]; rfl)
  have navigation : n.player.navigation = none := by simp [n, ready.navigation]
  have begun := (showLine_begun navigation typing).settle .typing
  have blocked := showLine_blocked n line
  rw [start, same]
  rw [typing] at blocked
  generalize (n.showLine line).2 = q at begun blocked
  cases blocked with
  | typing text hidden player surface =>
    have config : n.player.config = q.player.config := by rw [player]
    rw [config] at begun
    refine ⟨_, rfl, begun, ?_, ?_, ?_, ?_, ?_, rfl⟩
    all_goals simp [player, n, ready.timeline, ready.index, ready.gate, ready.enabled, name, named]

namespace Session

/-- The answer to a press, with a note when it was refused. -/
def pressed (s : Session) (id : Nat) : Progress × Session :=
  let (progress, playback) := s.playback.press id
  let s := { s with playback }
  (progress,
    match progress with
    | .waitChoice =>
      if s.playback.surface.log.isEmpty then s.printLines ["(not accepted)"] else s
    | _ => s)

/-- The answer that the session goes on with when it does what was asked. -/
def answer? (s : Session) : Reply → Option (Progress × Session)
  | .quit => none
  | .advance => some (s.playback.advance.1, { s with playback := s.playback.advance.2 })
  | .press id => some (s.pressed id)
  | .confirm =>
    match s.playback.player.gate with
    | some (.multi gate) => some (s.pressed gate.confirmButton)
    | _ => some (s.playback.player.progress, s.printLines ["Nothing to confirm."])
  | .unknown text =>
    some (s.playback.player.progress,
      s.printLines [s!"Invalid input '{text}'. Press Enter, 1-9, 'c' or 'q'."])

/-- The answer of a fresh player that begins a timeline, if there is one of that name. -/
def begun? (s : Session) (key : String) (index : Nat) : Option (Progress × Session) :=
  match s.renew.playback.startNamed s.registry key index with
  | .ok (progress, playback) => some (progress, { s.renew with playback })
  | .error _ => none

/-- The answers as timelines lead to others. -/
def answersFollowing : Nat → Next → List (Progress × Session)
  | _, (_, none) => []
  | 0, (_, some _) => []
  | patience + 1, (s, some key) =>
    ((s.noteRestart key).begun? key 0).toList ++
      answersFollowing patience ((s.noteRestart key).activate key 0)

def answersTo (s : Session) (line : Line) : List (Progress × Session) :=
  match s.phase with
  | .prompting =>
    match line with
    | .text content =>
      (s.answer? (.ofLine content)).toList ++
        answersFollowing (maxIdleRestarts + 1) (s.obey (.ofLine content))
    | .garbled => []
  | _ => []

def answersToAll (s : Session) : List Line → List (Progress × Session)
  | [] => []
  | line :: rest => s.watch.answersTo line ++ (s.watch.feed line).answersToAll rest

def fresh (registry : Registry) (config : Config) (options : Options) (streams : Nat → Random) :
    Session :=
  { registry, config, options, playback := .ofConfig config (.ofCanvas config.canvas), streams }

/-- All answers of the players of a session, each with the session that goes on with it. -/
def answers (registry : Registry) (config : Config) (options : Options) (lines : List Line)
    (streams : Nat → Random) : List (Progress × Session) :=
  (((fresh registry config options streams).printLines controls).begun? options.start
      (options.index.getD 0)).toList ++
    answersFollowing maxIdleRestarts (opening registry config options streams) ++
    (start registry config options streams).answersToAll lines

variable {registry : Registry} {config : Config} {options : Options} {streams : Nat → Random}
  {s t : Session} {g : Progress}

theorem pressButton_eq (s : Session) (id : Nat) :
    s.pressButton id = (s.pressed id).2.proceed (s.pressed id).1 := by
  unfold pressButton pressed
  generalize s.playback.press id = answer
  obtain ⟨g, p⟩ := answer
  cases g with
  | waitChoice =>
    dsimp only
    split <;> rfl
  | _ => rfl

theorem obey_eq (s : Session) (reply : Reply) :
    s.obey reply = (s.answer? reply).elim (s.quit, none) fun a => a.2.proceed a.1 := by
  cases reply with
  | press id => exact s.pressButton_eq id
  | confirm =>
    unfold obey answer?
    cases s.playback.player.gate with
    | none => rfl
    | some gate =>
      cases gate with
      | single gate => rfl
      | multi gate => exact s.pressButton_eq _
  | quit | advance | unknown text => rfl

theorem activate_eq (s : Session) (key : String) (index : Nat) :
    s.activate key index = (s.begun? key index).elim
      (s.renew.finish (.error (.load (.unknownTimeline key))), none) fun a => a.2.proceed a.1 := by
  have registry : s.renew.registry = s.registry := rfl
  unfold activate begun?
  dsimp only
  rw [registry]
  cases started : s.renew.playback.startNamed s.registry key index with
  | ok m => rfl
  | error e =>
    obtain ⟨rfl, -⟩ := Playback.startNamed_error started
    rfl

/-- The line that the player shows is complete after the time that is left for it. -/
def RevealsAtOnce (s : Session) : Prop :=
  ∃ (r : Reveal) (p : Playback), s.playback.player.reveal = some r ∧
    s.playback.tick (remainingTime s.playback) = .ok (.waitInput, p) ∧
    p.surface.stage.dialogText = r.text

/-- A line that has begun is complete at once exactly when its time can be reckoned. -/
theorem revealsAtOnce_iff {r : Reveal} (begun : s.playback.Begun r) :
    s.RevealsAtOnce ↔ r.interval.FitsLine r.text := by
  have time : remainingTime s.playback = _ := remainingTime_begun begun
  constructor
  · rintro ⟨-, p, -, complete, -⟩
    by_contra long
    obtain ⟨later, surface, shows, -⟩ := begun.revealed_in_part long
    rw [time, shows] at complete
    cases complete
  · intro fits
    refine ⟨r, s.playback.completed r, begun.shown, ?_, rfl⟩
    rw [time]
    exact begun.revealed_at_once fits

/-- A session on the registry and the configuration in which lines appear at once, and whose clock
has not run over. -/
structure Timely (r : Registry) (config : Config) (s : Session) : Prop
    extends Still r s where
  config : s.config = config
  player : s.playback.player.config = s.config
  timely : s.result? ≠ some (.error .clock)

/-- A timely session that shows no line. -/
structure Listens (r : Registry) (config : Config) (s : Session) : Prop
    extends Timely r config s where
  silent : s.playback.Silent r.HasLine

/-- A timely session whose player has answered: it has begun to show a line, or it shows none. -/
structure Answers (r : Registry) (config : Config) (a : Progress × Session) : Prop
    extends Timely r config a.2 where
  begins : Playback.Begins r.HasLine (a.1, a.2.playback)

namespace Timely

theorem playing (timely : Timely registry config s) {playback : Playback}
    (setUp : Playback.SetUpAs s.playback playback) :
    Timely registry config { s with playback } :=
  ⟨⟨timely.registry, timely.animate⟩, timely.config, setUp.1.trans timely.player, timely.timely⟩

theorem printLines (timely : Timely registry config s) (lines : List String) :
    Timely registry config (s.printLines lines) :=
  ⟨⟨timely.registry, timely.animate⟩, timely.config, timely.player, timely.timely⟩

theorem finish (timely : Timely registry config s) {result : Except Failure Outcome}
    (other : result ≠ .error .clock) : Timely registry config (s.finish result) :=
  ⟨⟨timely.registry, timely.animate⟩, timely.config, timely.player,
    fun ended => other (Option.some.inj ended)⟩

theorem noteRestart (timely : Timely registry config s) (key : String) :
    Timely registry config (s.noteRestart key) := by
  refine ⟨⟨timely.registry, timely.animate⟩, timely.config, ?_, timely.timely⟩
  rw [show (s.noteRestart key).playback.player = s.playback.player from
    Playback.note_player s.playback _]
  exact timely.player

theorem present (timely : Timely registry config s) (g : Progress) :
    Timely registry config (s.present g).1 := by
  obtain ⟨kept, playback, result⟩ := present_kept s g
  obtain ⟨_, moves, -⟩ := (Moves.refl (r := (g, s))).present.moves
  have config : (s.present g).1.config = s.config :=
    congrArg (fun settings : Registry × Config × Options => settings.2.1) moves.settings
  refine ⟨⟨kept.trans timely.registry, ?_⟩, config.trans timely.config, ?_, ?_⟩
  · rw [present_options, timely.animate]
  · rw [playback, config]
    exact timely.player
  · exact fun ended => timely.timely (result _ ended)

theorem begun? (timely : Timely registry config s) {key : String} {index : Nat}
    {a : Progress × Session} (begun : s.begun? key index = some a) :
    Answers registry config a := by
  have renewed : Timely registry config s.renew :=
    ⟨⟨timely.registry, timely.animate⟩, timely.config, rfl, timely.timely⟩
  unfold Session.begun? at begun
  cases started : s.renew.playback.startNamed s.registry key index with
  | error e =>
    rw [started] at begun
    cases begun
  | ok m =>
    rw [started] at begun
    cases begun
    obtain ⟨timeline, found, rfl⟩ := Playback.startNamed_ok started
    rw [timely.registry] at found
    let p : Playback := { s.renew.playback with player.timelineKey := some key }
    have named : Timely registry config { s.renew with playback := p } :=
      ⟨⟨renewed.registry, renewed.animate⟩, renewed.config, renewed.player, renewed.timely⟩
    exact ⟨named.playing (Playback.startAt_setUp p timeline index),
      Playback.startAt_begins p (fun line mem => ⟨key, timeline, line, found, mem, rfl⟩) index⟩

end Timely

namespace Listens

theorem present (listens : Listens registry config s) (g : Progress) :
    Listens registry config (s.present g).1 := by
  refine ⟨listens.toTimely.present g, ?_⟩
  obtain ⟨-, playback, -⟩ := present_kept s g
  rw [playback]
  exact listens.silent.congr rfl

theorem finish (listens : Listens registry config s) {result : Except Failure Outcome}
    (other : result ≠ .error .clock) : Listens registry config (s.finish result) :=
  ⟨listens.toTimely.finish other, listens.silent⟩

theorem noteRestart (listens : Listens registry config s) (key : String) :
    Listens registry config (s.noteRestart key) :=
  ⟨listens.toTimely.noteRestart key, listens.silent.congr (Playback.note_player s.playback _)⟩

theorem quit (listens : Listens registry config s) : Listens registry config s.quit :=
  ⟨(listens.toTimely.printLines _).finish (by simp), listens.silent⟩

theorem again (listens : Listens registry config s) (lines : List String) :
    Answers registry config (s.playback.player.progress, s.printLines lines) :=
  ⟨listens.toTimely.printLines lines, .silent listens.silent.waits listens.silent⟩

theorem called (listens : Listens registry config s) {c : Playback.Call} {p : Playback}
    (step : Playback.Step s.playback p c g) :
    Answers registry config (g, { s with playback := p }) :=
  ⟨listens.toTimely.playing (Playback.step_setUp step), listens.silent.step step⟩

theorem pressed (listens : Listens registry config s) (id : Nat) :
    Answers registry config (s.pressed id) := by
  have answers := listens.called (Playback.press_step s.playback id)
  unfold Session.pressed
  dsimp only
  split
  · split
    · exact ⟨answers.toTimely.printLines _, answers.begins⟩
    · exact answers
  · exact answers

theorem answer? (listens : Listens registry config s) {reply : Reply} {a : Progress × Session}
    (answered : s.answer? reply = some a) : Answers registry config a := by
  cases reply with
  | quit => cases answered
  | advance =>
    cases answered
    exact listens.called (Playback.advance_step s.playback)
  | press id =>
    cases answered
    exact listens.pressed id
  | confirm =>
    simp only [Session.answer?] at answered
    split at answered
    · cases answered
      exact listens.pressed _
    · cases answered
      exact listens.again _
  | unknown text =>
    cases answered
    exact listens.again _

end Listens

theorem Answers.proceed (answers : Answers registry config (g, s))
    (complete : g = .typing → s.RevealsAtOnce) : Listens registry config (s.proceed g).1 := by
  cases answers.begins with
  | @begun _ r begun text recites =>
    have fits := (revealsAtOnce_iff begun).1 (complete rfl)
    rw [proceed_begun begun fits answers.animate]
    have timely : Timely registry config (s.flush.revealed r) :=
      ⟨⟨answers.registry, answers.animate⟩, answers.config, answers.player, nofun⟩
    have shown : Listens registry config (s.flush.revealed r) :=
      ⟨timely, ⟨rfl, nofun, recites.congr rfl⟩⟩
    exact shown.present .waitInput
  | silent other silent =>
    rw [proceed_eq_present other]
    have listens : Listens registry config s := ⟨answers.toTimely, silent⟩
    exact listens.present g

/-- The lines of the answers are such. -/
def AllLines (Such : Session → Prop) (answers : List (Progress × Session)) : Prop :=
  ∀ a ∈ answers, a.1 = .typing → Such a.2

theorem AllLines.of_append {Such : Session → Prop} {a b : List (Progress × Session)}
    (all : AllLines Such (a ++ b)) : AllLines Such a ∧ AllLines Such b :=
  List.forall_mem_append.1 all

section Such

-- what is known of a line that begins, so that it is complete at once
variable {Such : Session → Prop}
  (complete : ∀ {s : Session}, Answers registry config (.typing, s) → Such s → s.RevealsAtOnce)
include complete

theorem Answers.next {a : Progress × Session} (answers : Answers registry config a)
    (line : a.1 = .typing → Such a.2) : Listens registry config (a.2.proceed a.1).1 := by
  obtain ⟨g, s⟩ := a
  refine answers.proceed ?_
  rintro rfl
  exact complete answers (line rfl)

theorem Timely.activate (timely : Timely registry config s) {key : String} {index : Nat}
    (all : AllLines Such (s.begun? key index).toList) :
    Listens registry config (s.activate key index).1 := by
  rw [activate_eq]
  cases begun : s.begun? key index with
  | none =>
    have renewed : Timely registry config s.renew :=
      ⟨⟨timely.registry, timely.animate⟩, timely.config, rfl, timely.timely⟩
    exact ⟨renewed.finish (by simp), ⟨rfl, nofun, nofun⟩⟩
  | some a =>
    rw [begun] at all
    exact (timely.begun? begun).next complete (all a (List.mem_singleton.2 rfl))

theorem Listens.follow {n : Next} (listens : Listens registry config n.1) (patience : Nat)
    (all : AllLines Such (answersFollowing patience n)) :
    (∀ a ∈ answersFollowing patience n, Answers registry config a) ∧
      Listens registry config (Session.follow patience n) := by
  induction patience generalizing n with
  | zero =>
    obtain ⟨s, next⟩ := n
    cases next with
    | none => exact ⟨by simp [answersFollowing], listens⟩
    | some key => exact ⟨by simp [answersFollowing], (listens.noteRestart key).finish (by simp)⟩
  | succ patience ih =>
    obtain ⟨s, next⟩ := n
    cases next with
    | none => exact ⟨by simp [answersFollowing], listens⟩
    | some key =>
      obtain ⟨first, rest⟩ := all.of_append
      have noted := (listens.noteRestart key).toTimely
      obtain ⟨answers, last⟩ := ih (noted.activate complete first) rest
      refine ⟨List.forall_mem_append.2 ⟨fun a mem => ?_, answers⟩, last⟩
      exact noted.begun? (Option.mem_toList.1 mem)

theorem Listens.obey (listens : Listens registry config s) (reply : Reply)
    (all : AllLines Such (s.answer? reply).toList) : Listens registry config (s.obey reply).1 := by
  rw [obey_eq]
  cases answered : s.answer? reply with
  | none => exact listens.quit
  | some a =>
    rw [answered] at all
    exact (listens.answer? answered).next complete (all a (List.mem_singleton.2 rfl))

theorem Listens.feed (listens : Listens registry config s) (line : Line)
    (all : AllLines Such (s.answersTo line)) :
    (∀ a ∈ s.answersTo line, Answers registry config a) ∧
      Listens registry config (s.feed line) := by
  unfold Session.answersTo Session.feed at *
  cases phase : s.phase with
  | prompting =>
    simp only [phase] at all ⊢
    cases line with
    | garbled => exact ⟨by simp, listens.finish (by simp)⟩
    | text content =>
      obtain ⟨first, rest⟩ := all.of_append
      obtain ⟨answers, last⟩ := (listens.obey complete _ first).follow complete _ rest
      refine ⟨List.forall_mem_append.2 ⟨fun a mem => ?_, answers⟩, last⟩
      exact listens.answer? (Option.mem_toList.1 mem)
  | _ =>
    exact ⟨by simp, listens⟩

theorem Listens.play (listens : Listens registry config s) (awaits : s.Awaits registry)
    (lines : List Line) (all : AllLines Such (s.answersToAll lines)) :
    (∀ a ∈ s.answersToAll lines, Answers registry config a) ∧
      Listens registry config (s.play lines) := by
  induction lines generalizing s with
  | nil =>
    refine ⟨by simp [Session.answersToAll], ?_⟩
    rw [awaits.play_eq, List.foldl_nil, endInput]
    split
    · exact listens.quit
    · exact listens
  | cons line rest ih =>
    have played : s.play (line :: rest) = (s.watch.feed line).play rest := rfl
    rw [Session.answersToAll, awaits.watch] at all ⊢
    rw [played, awaits.watch]
    obtain ⟨first, later⟩ := all.of_append
    obtain ⟨answers, fed⟩ := listens.feed complete line first
    obtain ⟨others, last⟩ := ih fed (awaits.feed line) later
    exact ⟨List.forall_mem_append.2 ⟨answers, others⟩, last⟩

/-- A session whose lines are such goes on until its end, and all its answers are timely. -/
theorem listens_run (still : options.animate = false) (lines : List Line) (streams : Nat → Random)
    (all : AllLines Such (answers registry config options lines streams)) :
    (∀ a ∈ answers registry config options lines streams, Answers registry config a) ∧
      Listens registry config (run registry config options lines streams) := by
  obtain ⟨before, later⟩ := all.of_append
  obtain ⟨first, rest⟩ := before.of_append
  have fresh : Listens registry config (fresh registry config options streams) :=
    ⟨⟨⟨rfl, still⟩, rfl, rfl, nofun⟩, ⟨rfl, nofun, nofun⟩⟩
  have printed := fresh.toTimely.printLines controls
  have opened : Listens registry config (opening registry config options streams).1 := by
    unfold opening
    dsimp only
    cases registry.get options.start with
    | error e => exact fresh.finish (by simp)
    | ok timeline => exact printed.activate complete first
  obtain ⟨led, started⟩ := opened.follow complete maxIdleRestarts rest
  rw [← start_eq] at started
  obtain ⟨answered, played⟩ := started.play complete (awaits_start still) lines later
  refine ⟨List.forall_mem_append.2 ⟨List.forall_mem_append.2 ⟨fun a mem => ?_, led⟩, answered⟩,
    played⟩
  exact printed.begun? (Option.mem_toList.1 mem)

end Such

/-- A line that begins is one of the registry, and it takes the time of the configuration. -/
theorem Answers.line {r : Reveal} (answers : Answers registry config (.typing, s))
    (shown : s.playback.player.reveal = some r) :
    s.playback.Begun r ∧ registry.HasLine r.text ∧ r.interval = config.typingInterval := by
  cases answers.begins with
  | begun begun text recites =>
    cases begun.shown.symm.trans shown
    refine ⟨begun, text, ?_⟩
    rw [begun.fresh, ← answers.config, ← answers.player]
  | silent other silent => exact (other rfl).elim

theorem Answers.revealsAtOnce_iff {r : Reveal} (answers : Answers registry config (.typing, s))
    (shown : s.playback.player.reveal = some r) :
    s.RevealsAtOnce ↔ config.typingInterval.FitsLine r.text := by
  obtain ⟨begun, -, interval⟩ := answers.line shown
  rw [Session.revealsAtOnce_iff begun, interval]

theorem Answers.shows (answers : Answers registry config (.typing, s)) :
    ∃ r, s.playback.player.reveal = some r := by
  cases answers.begins with
  | begun begun text recites => exact ⟨_, begun.shown⟩
  | silent other silent => exact (other rfl).elim

/-- A line that takes too long is asked about before it is complete. Its clock tells the time that
was reckoned. -/
theorem proceed_in_part {r : Reveal} (begun : s.playback.Begun r)
    (still : s.options.animate = false) (long : ¬ r.interval.FitsLine r.text) :
    ∃ later : Reveal, (s.proceed .typing).2 = none ∧ (s.proceed .typing).1.phase = .prompting ∧
      (s.proceed .typing).1.playback.player = { s.playback.player with reveal := some later } ∧
      later.elapsed = r.interval.times (min r.text.length (twoTo 32 - 1)) ∧
      later.isComplete = false := by
  obtain ⟨later, surface, shows, same, hidden⟩ := begun.revealed_in_part long
  have ticked : s.playback.tick (remainingTime s.playback) = _ :=
    (congrArg _ (remainingTime_begun begun)).trans shows
  refine ⟨later, ?_, ?_, ?_, congrArg Reveal.elapsed same, hidden⟩
  all_goals simp only [Session.proceed, still, ticked, Bool.false_eq_true, if_false]
  · exact (present_prompts rfl).1
  · exact (present_prompts rfl).2
  · rw [(present_kept _ _).2.1]
    rfl

/-- When the clock of a line tells the longest span, it runs over the next time. -/
theorem proceed_spent {r : Reveal} (navigation : s.playback.player.navigation = none)
    (still : s.options.animate = false)
    (shown : s.playback.player.reveal = some r) (spent : r.elapsed = .longest)
    (hidden : r.isComplete = false) (slow : 0 < s.playback.player.config.typingInterval.nanos) :
    s.proceed .typing = (s.finish (.error .clock), none) := by
  have left : r.shown < r.charCount := Nat.lt_of_not_le (of_decide_eq_false hidden)
  have more : 0 < (remainingTime s.playback).nanos := by
    simp only [remainingTime, shown, Duration.times, Duration.nanos_saturating]
    have count : 0 < min (r.charCount - r.shown) (twoTo 32 - 1) := by
      have word : 1 < twoTo 32 := by decide
      omega
    have longest : 0 < Duration.longest.nanos := by decide
    exact Nat.lt_min.2 ⟨Nat.mul_pos slow count, longest⟩
  have overflow : s.playback.tick (remainingTime s.playback) = .error {} :=
    Playback.tick_overflow navigation shown (Reveal.tick_spent hidden spent more)
  simp only [Session.proceed, still, overflow, Bool.false_eq_true, if_false]

def monologue (text : String) : Registry := Registry.insert {} "start" [.dialog { text }]

theorem eq_of_monologue_hasLine {text line : String} (has : (monologue text).HasLine line) :
    line = text := by
  obtain ⟨key, timeline, line, found, mem, rfl⟩ := has
  have entry : (key, timeline) ∈ (monologue text).timelines.entries := Dict.mem_of_get? found
  obtain ⟨rfl, rfl⟩ := Prod.mk.inj (List.mem_singleton.1 entry)
  obtain rfl : line = { text } := by simpa using mem
  rfl

theorem monologue_begins {text : String} (nonempty : 0 < text.length) (config : Config)
    (animate : Bool) (lines : List Line) (streams : Nat → Random) :
    ∃ s : Session,
      (.typing, s) ∈ answers (monologue text) config { animate } lines streams ∧
        opening (monologue text) config { animate } streams = s.proceed .typing ∧
        s.options.animate = animate ∧ s.playback.player.config = config ∧
        s.playback.BeginsWith "start" { text } [] := by
  let before : Session :=
    (fresh (monologue text) config { animate } streams).printLines controls
  let named : Playback := { before.renew.playback with player.timelineKey := some "start" }
  obtain ⟨p, begins, first⟩ := Playback.startAt_line (p := named) rfl { text } [] nonempty
  let s : Session := { before.renew with playback := p }
  have begun : before.begun? "start" 0 = some (.typing, s) := by
    have started : before.renew.playback.startNamed before.registry "start" 0 =
        .ok (named.startAt [.dialog { text }] 0) := rfl
    rw [Session.begun?, started, begins]
  have setUp := (Playback.startAt_setUp named [.dialog { text }] 0).1
  rw [begins] at setUp
  refine ⟨s, ?_, ?_, rfl, setUp, first⟩
  · have mem : (.typing, s) ∈ (before.begun? "start" 0).toList := Option.mem_toList.2 begun
    rw [answers, List.mem_append, List.mem_append]
    exact .inl (.inl mem)
  · have activated : opening (monologue text) config { animate } streams =
        before.activate "start" 0 := rfl
    rw [activated, activate_eq, begun, Option.elim_some]

theorem nonempty_of_not_fitsLine {interval : Duration} {text : String}
    (long : ¬ interval.FitsLine text) : 0 < text.length := by
  refine Nat.pos_of_ne_zero fun none => long (Duration.fitsLine_iff.2 (.inr ?_))
  rw [none]
  exact ⟨twoTo_pos 32, Nat.zero_le _⟩

theorem monologue_in_part {text : String} (long : ¬ config.typingInterval.FitsLine text)
    (lines : List Line) (streams : Nat → Random) :
    ∃ (s : Session) (later : Reveal),
      (.typing, s) ∈ answers (monologue text) config { animate := false } lines streams ∧
        ¬ s.RevealsAtOnce ∧ s.playback.player.config = config ∧
        s.playback.BeginsWith "start" { text } [] ∧
        (start (monologue text) config { animate := false } streams).phase = .prompting ∧
        (start (monologue text) config { animate := false } streams).playback.player =
          { s.playback.player with reveal := some later } ∧
        later.elapsed = config.typingInterval.times (min text.length (twoTo 32 - 1)) ∧
        later.isComplete = false := by
  obtain ⟨s, mem, opened, still, pace, first⟩ :=
    monologue_begins (nonempty_of_not_fitsLine long) config false lines streams
  have slow : ¬ s.playback.player.config.typingInterval.FitsLine text := pace ▸ long
  obtain ⟨later, last, phase, player, spent, hidden⟩ := proceed_in_part first.begun still slow
  have started : start (monologue text) config { animate := false } streams =
      (s.proceed .typing).1 := by
    rw [start_eq, opened, show s.proceed .typing = ((s.proceed .typing).1, none) from
      Prod.ext rfl last, follow_none]
  rw [started]
  exact ⟨s, later, mem, fun at_once => slow ((revealsAtOnce_iff first.begun).1 at_once), pace,
    first, phase, player, pace ▸ spent, hidden⟩

/-- A line that takes too long is not complete after the first time, and when it is looked at again,
the clock runs over. -/
theorem monologue_overflows {text : String} (countable : text.length < twoTo 32)
    (long : ¬ config.typingInterval.FitsLine text) (streams : Nat → Random) :
    (∃ s, (.typing, s) ∈ answers (monologue text) config { animate := false } [.text "c"] streams ∧
        ¬ s.RevealsAtOnce) ∧
      (run (monologue text) config { animate := false } [.text "c"] streams).result? =
        some (.error .clock) := by
  obtain ⟨s, later, mem, in_part, pace, first, phase, player, elapsed, hidden⟩ :=
    monologue_in_part long [.text "c"] streams
  refine ⟨⟨s, mem, in_part⟩, ?_⟩
  have spent : later.elapsed = .longest :=
    elapsed.trans (Duration.times_of_not_fitsLine countable long)
  have slow : 0 < config.typingInterval.nanos :=
    Nat.pos_of_ne_zero fun none => long (Duration.fitsLine_iff.2 (.inl none))
  have awaits : (start (monologue text) config { animate := false } streams).Awaits _ :=
    awaits_start rfl
  rw [run, awaits.play_eq]
  generalize start (monologue text) config { animate := false } streams = t at phase player awaits ⊢
  have asked : t.obey .confirm =
      ((t.printLines ["Nothing to confirm."]).finish (.error .clock), none) := by
    have ungated : t.playback.player.gate = none := by rw [player]; exact first.gate
    have typing : t.playback.player.progress = .typing := by rw [player]; exact first.progress
    simp only [obey, ungated, typing]
    refine proceed_spent (s := t.printLines ["Nothing to confirm."]) ?_ awaits.animate ?_ spent
      hidden ?_
    all_goals rw [printLines_playback, player]
    · exact first.begun.navigation
    · exact pace ▸ slow
  have reply : Reply.ofLine "c" = .confirm := by decide
  simp only [List.foldl_cons, List.foldl_nil, feed, phase, reply, asked, follow_none]
  rfl

/-- The longest time that a character can be given. -/
def slowest : Config := { Config.default with typingIntervalMs := twoTo 64 - 1 }

def drawl (count : Nat) : String := String.ofList (List.replicate count 'a')

theorem length_drawl (count : Nat) : (drawl count).length = count := by
  rw [drawl, String.length_ofList, List.length_replicate]

/-- A thousand characters are shown in the longest span, and one more is not. -/
theorem drawl_fits_iff : slowest.typingInterval.FitsLine (drawl 1000) ∧
    ¬ slowest.typingInterval.FitsLine (drawl 1001) := by
  rw [Duration.fitsLine_iff, Duration.fitsLine_iff, length_drawl, length_drawl]
  decide

/-- In a registry whose lines take no longer than a clock can tell, each line is complete at once,
and no clock runs over. -/
theorem revealed_at_once_of_fits (still : options.animate = false)
    (fits : ∀ text, registry.HasLine text → config.typingInterval.FitsLine text)
    (lines : List Line) (streams : Nat → Random) :
    (∀ a ∈ answers registry config options lines streams, a.1 = .typing → a.2.RevealsAtOnce) ∧
      (run registry config options lines streams).result? ≠ some (.error .clock) := by
  have complete {s : Session} (answers : Answers registry config (.typing, s)) (_ : True) :
      s.RevealsAtOnce := by
    obtain ⟨r, shown⟩ := answers.shows
    obtain ⟨-, line, -⟩ := answers.line shown
    exact (answers.revealsAtOnce_iff shown).2 (fits _ line)
  obtain ⟨all, last⟩ := listens_run complete still lines streams fun _ _ _ => trivial
  refine ⟨?_, last.timely⟩
  rintro ⟨_, s⟩ mem rfl
  exact complete (all _ mem) trivial

/-- Without animation each line is complete at once, and no clock runs over, exactly when the time
of each line that begins can be reckoned: lines take no time, or their characters can be counted
and take no longer together than the longest span. -/
theorem revealed_at_once_iff (still : options.animate = false) (lines : List Line) :
    ((∀ a ∈ answers registry config options lines streams, a.1 = .typing → a.2.RevealsAtOnce) ∧
        (run registry config options lines streams).result? ≠ some (.error .clock)) ↔
      ∀ a ∈ answers registry config options lines streams, a.1 = .typing →
        ∀ r, a.2.playback.player.reveal = some r →
          config.typingInterval.nanos = 0 ∨ r.text.length < twoTo 32 ∧
            config.typingInterval.nanos * r.text.length ≤ Duration.longest.nanos := by
  simp only [← Duration.fitsLine_iff]
  constructor
  · rintro ⟨complete, -⟩ ⟨_, s⟩ mem rfl r shown
    obtain ⟨all, -⟩ := listens_run (fun _ such => such) still lines streams complete
    exact ((all _ mem).revealsAtOnce_iff shown).1 (complete _ mem rfl)
  · intro fits
    have complete {s : Session} (answers : Answers registry config (.typing, s))
        (such : ∀ r, s.playback.player.reveal = some r →
          config.typingInterval.FitsLine r.text) : s.RevealsAtOnce := by
      obtain ⟨r, shown⟩ := answers.shows
      exact (answers.revealsAtOnce_iff shown).2 (such r shown)
    obtain ⟨all, last⟩ := listens_run complete still lines streams fits
    refine ⟨?_, last.timely⟩
    rintro ⟨_, s⟩ mem rfl
    exact complete (all _ mem) (fits _ mem rfl)

/-- A thousand characters are complete at once. -/
theorem drawl_revealed_at_once :
    (∃ s, (.typing, s) ∈ answers (monologue (drawl 1000)) slowest { animate := false } [.text "c"]
        fun _ => .ofSeed 0) ∧
      ((∀ a ∈ answers (monologue (drawl 1000)) slowest { animate := false } [.text "c"]
          fun _ => .ofSeed 0, a.1 = .typing → a.2.RevealsAtOnce) ∧
        (run (monologue (drawl 1000)) slowest { animate := false } [.text "c"]).result? ≠
          some (.error .clock)) ∧
      ∀ a ∈ answers (monologue (drawl 1000)) slowest { animate := false } [.text "c"]
          fun _ => .ofSeed 0, a.1 = .typing → ∀ r, a.2.playback.player.reveal = some r →
        slowest.typingInterval.nanos = 0 ∨ r.text.length < twoTo 32 ∧
          slowest.typingInterval.nanos * r.text.length ≤ Duration.longest.nanos := by
  have nonempty : 0 < (drawl 1000).length := by
    rw [length_drawl]
    decide
  have fits (text : String) (line : (monologue (drawl 1000)).HasLine text) :
      slowest.typingInterval.FitsLine text := eq_of_monologue_hasLine line ▸ drawl_fits_iff.1
  obtain ⟨s, mem, -⟩ := monologue_begins nonempty slowest false [.text "c"] fun _ => .ofSeed 0
  have still : ({ animate := false } : Options).animate = false := rfl
  have at_once := revealed_at_once_of_fits still fits [.text "c"] fun _ => .ofSeed 0
  exact ⟨⟨s, mem⟩, at_once, (revealed_at_once_iff rfl _).1 at_once⟩

/-- The first time, one character is missing; asked again, the clock runs over. -/
theorem drawl_overflows :
    (∃ s, (.typing, s) ∈ answers (monologue (drawl 1001)) slowest { animate := false } [.text "c"]
        (fun _ => .ofSeed 0) ∧ ¬ s.RevealsAtOnce) ∧
      (run (monologue (drawl 1001)) slowest { animate := false } [.text "c"]).result? =
        some (.error .clock) := by
  have countable : (drawl 1001).length < twoTo 32 := by
    rw [length_drawl]
    decide
  exact monologue_overflows countable drawl_fits_iff.2 _

end Session

end VisualNovel
