import VisualNovel.Proofs.Playback.Display
import VisualNovel.Proofs.Session.AtOnce
import VisualNovel.Proofs.Session.Orphans

namespace VisualNovel

namespace Playback

/-- A step after which a line is still shown, or one whose answer is kept. -/
theorem step_typing {p q : Playback} {c : Call} {g : Progress} (step : Step p q c g)
    (typing : g = .typing) :
    q.player.progress = .typing ∨ q.player.navigation = none ∧ q.player.reveal.isSome = true := by
  cases step with
  | ignored navigation enabled player surface => exact .inl (player ▸ typing)
  | ran navigation enabled reveal run player surface => exact .inl (player ▸ typing)
  | ungated navigation gate same | unshown navigation reveal same => exact .inl (same ▸ typing)
  | refused navigation gated pressed player surface
  | toggled navigation gated pressed player surface => exact .inl (player ▸ typing)
  | showing navigation shown ticked incomplete player surface =>
    exact .inr (by simp [player, navigation])
  | finished | completed | resolved | fellBack | shown => cases typing

theorem Hosted.ne_waitChoice {r : Registry} {m : Progress × Playback} (hosted : Hosted r m)
    (typing : m.1 = .typing) : m.2.player.progress ≠ .waitChoice := by
  induction hosted with
  | begun begun =>
    obtain ⟨timeline, -, rfl⟩ := startNamed_ok begun
    intro waiting
    cases typing.symm.trans waiting
  | called hosted called ih =>
    intro waiting
    obtain kept | ⟨navigation, shown⟩ := step_typing (call_step called) typing
    · cases kept.symm.trans waiting
    · have hidden := ((hosted.called called).controlled.choosing navigation waiting).2
      rw [hidden] at shown
      cases shown
  | asked hosted ih =>
    intro waiting
    cases typing.symm.trans waiting
  | looked hosted ih => exact ih typing

end Playback

/-- Of commands about buttons and pointer downs there is nothing to tell. -/
theorem View.update_control {v : View} {timeline : Option String}
    (told : v.newTimeline? timeline = none) {commands : List Command}
    (control : ∀ c ∈ commands, c.isControl = true) : v.update commands timeline = ({}, v) := by
  induction commands with
  | nil => exact update_nil told
  | cons c rest ih =>
    obtain ⟨first, later⟩ := List.forall_mem_cons.1 control
    have skipped : v.update (c :: rest) timeline = v.update rest timeline := by
      cases c with
      | addButton button | setButtonState id state | clearButtons | setAdvanceEnabled enabled => rfl
      | _ => cases first
    exact skipped.trans (ih later)

namespace Session

variable {given : Registry × Config × Options} {a b : Progress × Session} {s t : Session}
  {g : Progress}

/-- A player of a host, with the answer that the host goes on from. Its screen shows its gate. -/
structure Plays (given : Registry × Config × Options) (a : Progress × Session) : Prop
    extends Equipped given (a.2, none) where
  hosted : Playback.Hosted given.1 (a.1, a.2.playback)
  displays : Playback.Displays given.2.1.layout given.2.1.canvas a.2.playback

/-- A session that goes on with no other timeline asks for a line right after it has shown what
came of a step. -/
def Next.Presented (a : Progress × Session) (n : Next) : Prop :=
  n.2 = none → n.1.phase = .prompting → ∃ g t, Moves a (g, t) ∧ n = t.present g

theorem Moves.displays {layout : GateLayout Float32} {canvas : CanvasSize} (moves : Moves a b)
    (displays : Playback.Displays layout canvas a.2.playback) :
    Playback.Displays layout canvas b.2.playback := by
  induction moves with
  | refl => exact displays
  | told before settings playback view ih =>
    rw [playback]
    exact ih
  | looked before ih => exact ih.congr rfl rfl rfl rfl
  | called before called ih => exact Playback.displays_step ih (Playback.call_step called)
  | asked before ih => exact ih

theorem Plays.moves (plays : Plays given a) (moves : Moves a b) : Plays given b where
  settings := moves.settings.trans plays.settings
  canvas := moves.canvas.trans plays.canvas
  hosted := moves.hosted plays.hosted
  displays := moves.displays plays.displays

theorem presented_of_ne_prompting {n : Next} (other : n.1.phase ≠ .prompting) :
    Next.Presented a n := fun _ prompting => (other prompting).elim

theorem finish_presented (result : Except Failure Outcome) :
    Next.Presented a (s.finish result, none) := presented_of_ne_prompting nofun

namespace Moves

theorem proceed_presented (moves : Moves a (g, s)) : Next.Presented a (s.proceed g) := by
  unfold Session.proceed
  split
  · split
    · exact presented_of_ne_prompting nofun
    · split
      · next progress playback ticked =>
        exact fun _ _ => ⟨_, _, moves.called (c := .tick _) ticked, rfl⟩
      · exact finish_presented _
  · exact fun _ _ => ⟨_, _, moves, rfl⟩

theorem pressed (moves : Moves a (g, s)) (id : Nat) : Moves a (s.pressed id) := by
  have called := moves.called (c := .press id) rfl
  unfold Session.pressed
  dsimp only
  split
  · split
    · exact called.printLines _
    · exact called
  · exact called

theorem answer? (moves : Moves a (g, s)) {reply : Reply} {b : Progress × Session}
    (answered : s.answer? reply = some b) : Moves a b := by
  cases reply with
  | quit => cases answered
  | advance =>
    cases answered
    exact moves.called (c := .advance) rfl
  | press id =>
    cases answered
    exact moves.pressed id
  | confirm =>
    simp only [Session.answer?] at answered
    split at answered
    · cases answered
      exact moves.pressed _
    · cases answered
      exact moves.asked.printLines _
  | unknown text =>
    cases answered
    exact moves.asked.printLines _

theorem obey_presented (moves : Moves a (g, s)) (reply : Reply) :
    Next.Presented a (s.obey reply) := by
  rw [obey_eq]
  cases answered : s.answer? reply with
  | none => exact finish_presented _
  | some b => exact (moves.answer? answered).proceed_presented

end Moves

theorem reaction_presented (s : Session) (g : Progress) (input : Input) :
    s.reaction input = (s, none) ∨ Next.Presented (g, s) (s.reaction input) := by
  have here : Moves (g, s) (g, s) := .refl
  cases input with
  | line line =>
    simp only [reaction]
    split
    · cases line with
      | text content => exact .inr (here.obey_presented _)
      | garbled => exact .inr (finish_presented _)
    · exact .inl rfl
  | time time =>
    simp only [reaction]
    split
    · split
      · exact .inr (finish_presented _)
      · next progress playback ticked =>
        have called := here.called (c := .tick time) ticked
        split
        · refine .inr (presented_of_ne_prompting fun prompting => ?_)
          cases prompting
        · exact .inr fun _ _ => ⟨_, _, ((called.print _).print _).looked, rfl⟩
    · exact .inl rfl
  | closed =>
    simp only [reaction]
    split
    · exact .inr (finish_presented _)
    · exact .inl rfl

/-- What holds of a session at each step: its player is one of the host's, and a line is asked for
right after something was shown. -/
structure Next.Asks (given : Registry × Config × Options) (n : Next) : Prop
    extends Equipped given n where
  plays : n.2 = none → n.1.result? = none → ∃ g, Plays given (g, n.1)
  asked : n.2 = none → n.1.phase = .prompting → ∃ g t, Plays given (g, t) ∧ n = t.present g

theorem Plays.asks (plays : Plays given a) {n : Next} (reached : Next.Reached a n)
    (presented : Next.Presented a n) : Next.Asks given n := by
  obtain ⟨g, moves, -⟩ := reached.moves
  refine ⟨reached.equipped plays.toEquipped, fun _ _ => ⟨g, plays.moves moves⟩, ?_⟩
  intro last prompting
  obtain ⟨g, t, moves, same⟩ := presented last prompting
  exact ⟨g, t, plays.moves moves, same⟩

theorem asks_finish (equipped : Equipped given (s, none)) (result : Except Failure Outcome) :
    Next.Asks given (s.finish result, none) :=
  ⟨⟨equipped.settings, equipped.canvas⟩, nofun, nofun⟩

/-- A fresh player shows its gate on the canvas of the last one. -/
theorem asks_activate (equipped : Equipped given (s, none)) (key : String) (index : Nat) :
    Next.Asks given (s.activate key index) := by
  have renewed : Equipped given (s.renew, none) := ⟨equipped.settings, equipped.canvas⟩
  rw [activate_eq]
  unfold Session.begun?
  cases started : s.renew.playback.startNamed s.registry key index with
  | error e => exact asks_finish renewed _
  | ok m =>
    obtain ⟨registry, rest⟩ := Prod.mk.inj equipped.settings
    obtain ⟨timeline, -, same⟩ := Playback.startNamed_ok started
    let named : Playback := { s.renew.playback with player.timelineKey := some key }
    have displays : Playback.Displays named.player.config.layout named.canvas m.2 := by
      rw [same]
      exact Playback.displays_startAt named timeline index
    have config : named.player.config = given.2.1 := congrArg Prod.fst rest
    have canvas : named.canvas = given.2.1.canvas := equipped.canvas
    rw [config, canvas] at displays
    have hosted : Playback.Hosted given.1 m := .begun (registry ▸ started)
    have plays : Plays given (m.1, { s.renew with playback := m.2 }) :=
      ⟨⟨equipped.settings, displays.size⟩, hosted, displays⟩
    exact plays.asks Moves.refl.proceed Moves.refl.proceed_presented

theorem Next.Asks.noteRestart {key : String} (asks : Next.Asks given (s, some key)) :
    Equipped given (s.noteRestart key, none) :=
  ⟨asks.settings, (congrArg (·.stage.canvas) (s.noteRestart_surface key)).trans asks.canvas⟩

theorem kept_asks : Kept (Next.Asks given) where
  activated asks := asks_activate asks.noteRestart _ 0
  endless asks := asks_finish asks.noteRestart _
  reacted {s} input asks := by
    cases result : s.result? with
    | some result =>
      rw [reaction_over result]
      exact asks
    | none =>
      obtain ⟨g, plays⟩ := asks.plays rfl result
      obtain unchanged | reached := s.reaction_cases g input
      · rw [unchanged]
        exact asks
      · obtain unchanged | presented := s.reaction_presented g input
        · rw [unchanged]
          exact asks
        · exact plays.asks reached presented

theorem asks_opening (registry : Registry) (config : Config) (options : Options)
    (streams : Nat → Random) :
    Next.Asks (registry, config, options) (opening registry config options streams) := by
  unfold opening
  dsimp only
  split
  · refine asks_finish ?_ _
    exact ⟨rfl, rfl⟩
  · refine asks_activate ?_ _ _
    exact ⟨rfl, rfl⟩

def menu (s : Session) : List String :=
  "--- Choice ---" :: s.playback.surface.stage.buttons.map (fun (b, state) => buttonLine b state)
    ++ [""]

def linesText (lines : List String) : String := String.join (lines.map (· ++ "\n"))

theorem linesText_cons (line : String) (rest : List String) :
    linesText (line :: rest) = line ++ "\n" ++ linesText rest := by
  simp [linesText]

/-- The session with the state of its player, if that is to be told. -/
def tellState (s : Session) : Session := if s.options.debug then s.showState else s

theorem present_waitChoice (s : Session) :
    s.present .waitChoice = (s.flush.tellState.showButtons.prompt, none) := rfl

/-- The text tells the state of the player, or nothing when that is not to be told. -/
def TellsState (s : Session) (text : String) : Prop :=
  if s.options.debug then ∃ rest, text = "[debug]\n" ++ rest else text = ""

theorem tellState_eq (s : Session) : ∃ text, s.TellsState text ∧ s.tellState = s.print text := by
  unfold tellState TellsState
  split
  · exact ⟨_, ⟨_, linesText_cons "[debug]" _⟩, rfl⟩
  · exact ⟨"", rfl, by simp [print]⟩

/-- Where there is nothing new to tell, nothing is printed. -/
theorem flush_control (told : s.view.newTimeline? s.playback.player.timelineKey = none)
    (control : ∀ c ∈ s.playback.surface.log.toList, c.isControl = true) :
    s.flush = { s with playback := s.playback.looked } := by
  have seen : s.look = ({}, { s with playback := s.playback.looked }) := by
    simp only [look, Surface.takeLog, View.update_control told control]
    rfl
  have silent : ({} : Delta).text = "" := rfl
  rw [flush, seen]
  simp [print, silent]

theorem tellState_control (told : s.view.newTimeline? s.playback.player.timelineKey = none)
    (control : ∀ c ∈ s.playback.surface.log.toList, c.isControl = true) :
    ∃ text, s.TellsState text ∧ s.flush.tellState =
      { s with playback := s.playback.looked, output := s.output ++ text } := by
  obtain ⟨text, tells, printed⟩ := s.flush.tellState_eq
  rw [flush_control told control] at tells printed
  exact ⟨text, tells, by rw [flush_control told control, printed]; rfl⟩

theorem present_control (told : s.view.newTimeline? s.playback.player.timelineKey = none)
    (control : ∀ c ∈ s.playback.surface.log.toList, c.isControl = true) :
    ∃ text, s.TellsState text ∧ s.present .waitChoice =
      ({ s with
          playback := s.playback.looked
          output := s.output ++ (text ++ linesText s.menu ++ "> ")
          phase := .prompting }, none) := by
  obtain ⟨text, tells, printed⟩ := tellState_control told control
  refine ⟨text, tells, ?_⟩
  rw [present_waitChoice, printed, ← String.append_assoc, ← String.append_assoc]
  rfl

/-- The session asks for a choice: the screen shows the gate that waits for it, the menu of the
screen was printed last, and there is nothing that was not told. -/
structure Choosing (s : Session) (gate : Gate) : Prop where
  prompting : s.phase = .prompting
  gated : s.playback.player.gate = some gate
  waiting : s.playback.player.progress = .waitChoice
  navigation : s.playback.player.navigation = none
  enabled : s.playback.player.advanceEnabled = false
  looked : s.playback.surface.log = #[]
  told : s.view.newTimeline? s.playback.player.timelineKey = none
  sound : gate.Sound
  screen : s.playback.surface.stage.buttons = gate.shown s.config.layout s.config.canvas
  printed : ∃ before, s.output = before ++ (linesText s.menu ++ "> ")

theorem Plays.choosing (plays : Plays given (g, t))
    (prompting : (t.present g).1.phase = .prompting)
    (waiting : (t.present g).1.playback.player.progress = .waitChoice) :
    ∃ gate, (t.present g).1.Choosing gate := by
  have controlled := plays.hosted.controlled
  rw [(present_kept t g).2.1] at waiting
  have waiting : t.playback.player.progress = .waitChoice := waiting
  obtain rfl : g = .waitChoice := by
    obtain stored | typing | finished := plays.hosted.answer
    · exact stored.trans waiting
    · exact (plays.hosted.ne_waitChoice typing waiting).elim
    · rw [show g = .finished from finished] at prompting
      cases prompting
  have navigation : t.playback.player.navigation = none := by
    cases there : t.playback.player.navigation with
    | none => rfl
    | some n => cases ((controlled.navigation_iff n).1 there).symm.trans waiting
  obtain ⟨gated, -⟩ := controlled.choosing navigation waiting
  obtain ⟨gate, gated⟩ := Option.isSome_iff_exists.1 gated
  have config : t.config = given.2.1 := congrArg (·.2.1) plays.settings
  obtain ⟨sound, screen⟩ := plays.displays.shown gate gated
  rw [← config] at screen
  obtain ⟨text, -, told⟩ := t.flush.tellState_eq
  rw [present_waitChoice, told]
  exact ⟨gate, {
    prompting := rfl
    gated := gated
    waiting := waiting
    navigation := navigation
    enabled := (controlled.choosing_iff navigation).1 waiting
    looked := rfl
    told := View.newTimeline?_update _ _ _
    sound := sound
    screen := screen
    printed := ⟨(t.flush.print text).output, String.append_assoc⟩ }⟩

/-- After some lines the same choice is asked for once more, and nothing else has changed but what
is recorded. -/
structure AsksAgain (s : Session) (gate : Gate) (lines : List String) (t : Session) : Prop where
  player : t.playback.player = s.playback.player
  surface : t.playback.surface = s.playback.surface
  choosing : t.Choosing gate
  printed : ∃ told, s.TellsState told ∧
    t.output = s.output ++ (linesText lines ++ told ++ linesText s.menu ++ "> ")

theorem Choosing.asksAgain {gate : Gate} (choosing : s.Choosing gate) {p : Playback}
    (player : p.player = s.playback.player) (surface : p.surface = s.playback.surface)
    (lines : List String) : ∃ t, AsksAgain s gate lines t ∧
      ({ s with playback := p }.printLines lines).present .waitChoice = (t, none) := by
  let q : Session := ({ s with playback := p }.printLines lines)
  have key : q.playback.player.timelineKey = s.playback.player.timelineKey :=
    congrArg Player.timelineKey player
  have empty : q.playback.surface.log = #[] := (congrArg Surface.log surface).trans choosing.looked
  have menu : q.menu = s.menu := by simp only [Session.menu, q, printLines_playback, surface]
  obtain ⟨text, tells, asks⟩ := present_control (s := q) (key ▸ choosing.told) (by simp [empty])
  have looked : q.playback.looked.surface = s.playback.surface := by
    have emptied : s.playback.looked.surface = s.playback.surface :=
      congrArg (Surface.mk s.playback.surface.stage) choosing.looked.symm
    rw [← emptied, Playback.looked, Playback.looked, printLines_playback, surface]
  refine ⟨_, ⟨player, looked, ?_, text, tells, ?_⟩, asks⟩
  · exact {
      prompting := rfl
      gated := (congrArg Player.gate player).trans choosing.gated
      waiting := (congrArg Player.progress player).trans choosing.waiting
      navigation := (congrArg Player.navigation player).trans choosing.navigation
      enabled := (congrArg Player.advanceEnabled player).trans choosing.enabled
      looked := rfl
      told := key ▸ choosing.told
      sound := choosing.sound
      screen := (congrArg (·.stage.buttons) looked).trans choosing.screen
      printed := ⟨q.output ++ text, by simp only [String.append_assoc]; rfl⟩ }
  · rw [menu]
    change s.output ++ linesText lines ++ (text ++ linesText s.menu ++ "> ") = _
    simp only [String.append_assoc]

theorem Choosing.obey_unknown {gate : Gate} (choosing : s.Choosing gate) (text : String) :
    ∃ t, AsksAgain s gate [s!"Invalid input '{text}'. Press Enter, 1-9, 'c' or 'q'."] t ∧
      s.obey (.unknown text) = (t, none) := by
  obtain ⟨t, again, shown⟩ := choosing.asksAgain (p := s.playback) rfl rfl
    [s!"Invalid input '{text}'. Press Enter, 1-9, 'c' or 'q'."]
  refine ⟨t, again, ?_⟩
  simp only [obey, choosing.waiting]
  exact shown

/-- When a session waits for a choice, it asks for it. -/
theorem choosing_takes {r : Registry} {config : Config} {options : Options}
    {streams : Nat → Random} {inputs : List Input}
    (prompting : ((start r config options streams).takes inputs).phase = .prompting)
    (waiting : ((start r config options streams).takes inputs).playback.player.progress =
      .waitChoice) :
    ((start r config options streams).takes inputs).config = config ∧
      ∃ gate, ((start r config options streams).takes inputs).Choosing gate := by
  have asks := (kept_asks.session (asks_opening r config options streams) inputs).1
  obtain ⟨g, t, plays, same⟩ := asks.asked rfl prompting
  have shown := congrArg Prod.fst same
  dsimp only at shown
  refine ⟨congrArg (·.2.1) asks.settings, ?_⟩
  rw [shown] at prompting waiting ⊢
  exact plays.choosing prompting waiting

end Session

end VisualNovel
