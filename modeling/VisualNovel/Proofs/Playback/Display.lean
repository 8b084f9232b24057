import VisualNovel.Proofs.Gate.Screen
import VisualNovel.Proofs.Playback.Calls
import VisualNovel.Proofs.Random.Shuffle

namespace VisualNovel

namespace Gate

/-- How options and buttons of a set go together. -/
structure Multi.Arranged (g : Multi) : Prop where
  perm : g.order.Perm (.range g.options.length)
  buttonFor_iff : ∀ option id, g.buttonFor? option = some id ↔ g.order[id]? = some option
  confirmButton : g.confirmButton = g.options.length
  /-- No option has the button that confirms. -/
  unused : ∀ option, g.buttonFor? option ≠ some g.confirmButton
  lt_of_selected : ∀ option ∈ g.selected, option < g.options.length
  capped : ∀ max, g.maxSelect = some max → g.selected.length ≤ max

theorem Multi.Sound.arranged {g : Multi} (h : g.Sound) : g.Arranged where
  perm := h.perm
  buttonFor_iff _ _ := h.buttonFor_iff
  confirmButton := h.confirmButton_eq
  unused option taken := by
    have place := (List.getElem?_eq_some_iff.1 (h.buttonFor_iff.1 taken)).1
    exact Nat.lt_irrefl _ place
  lt_of_selected _ := lt_of_mem_selected
  capped max hmax := g.length_selected ▸ h.capped max hmax

/-- A screen has the buttons of a gate, in their order and nothing else, and tells what is
selected. -/
structure Screened (g : Gate) (layout : GateLayout Float32) (canvas : CanvasSize)
    (screen : List (Button × ButtonState)) : Prop where
  buttons : screen.map Prod.fst = g.buttons layout canvas
  numbers : screen.map (·.1.id) = List.range g.buttonCount
  idle : ∀ b ∈ screen, b.1.role ≠ .toggle → b.2 = .idle
  toggles : ∀ m, g = .multi m → ∀ (place option : Nat), m.order[place]? = some option →
    ∃ b : Button × ButtonState, screen[place]? = some b ∧ b.1.role = .toggle ∧
      (b.2 = .selected ↔ option ∈ m.selected)

variable {layout : GateLayout Float32} {canvas : CanvasSize}

theorem map_fst_shown {g : Gate} (h : g.Sound) :
    (g.shown layout canvas).map Prod.fst = g.buttons layout canvas := by
  refine List.map_fst_zip (Nat.le_of_eq ?_)
  rw [length_buttons layout canvas h, length_states h]

/-- A button that selects no option is one that leads on, and stays as it is. -/
theorem idle_of_shown {g : Gate} {b : Button × ButtonState} (mem : b ∈ g.shown layout canvas)
    (role : b.1.role ≠ .toggle) : b.2 = .idle := by
  cases g with
  | single g =>
    have state : b.2 ∈ g.choices.map fun _ => ButtonState.idle := (List.of_mem_zip mem).2
    obtain ⟨_, -, idle⟩ := List.mem_map.1 state
    exact idle.symm
  | multi g =>
    simp only [shown, buttons, Multi.buttons, states, Multi.states] at mem
    rw [List.zip_append (by simp)] at mem
    obtain toggle | confirm := List.mem_append.1 mem
    · obtain ⟨_, -, same⟩ := List.mem_map.1 (List.of_mem_zip toggle).1
      exact (role (by rw [← same])).elim
    · obtain rfl := List.mem_singleton.1 confirm
      rfl

theorem Multi.stateOf_eq_selected_iff {g : Multi} {option : Nat} :
    g.stateOf option = .selected ↔ option ∈ g.selected := by
  rw [mem_selected_iff, stateOf]
  split <;> simp [*]

/-- The button at the place at which an option is shown tells whether it is selected. -/
theorem toggle_of_shown {g : Multi} {place option : Nat} (there : g.order[place]? = some option) :
    ∃ b : Button × ButtonState, ((Gate.multi g).shown layout canvas)[place]? = some b ∧
      b.1.role = .toggle ∧ (b.2 = .selected ↔ option ∈ g.selected) := by
  obtain ⟨lt, same⟩ := List.getElem?_eq_some_iff.1 there
  refine ⟨(⟨place, .toggle, g.label option, layout.optionBox canvas g.order.length place⟩,
    g.stateOf option), ?_, rfl, Multi.stateOf_eq_selected_iff⟩
  simp [shown, buttons, Multi.buttons, states, Multi.states, List.getElem?_zip_eq_some,
    List.getElem?_append_left, lt, same]

theorem screened_shown {g : Gate} (h : g.Sound) :
    g.Screened layout canvas (g.shown layout canvas) where
  buttons := map_fst_shown h
  numbers := by
    rw [← numbered layout canvas h, ← map_fst_shown h, List.map_map]
    rfl
  idle _ mem := idle_of_shown mem
  toggles := by
    rintro m rfl place option there
    exact toggle_of_shown there

end Gate

namespace Playback

/-- The surface of a player shows its gate, for the measures of the player and of the canvas. -/
structure Displays (layout : GateLayout Float32) (canvas : CanvasSize) (p : Playback) : Prop where
  measures : p.player.config.layout = layout
  size : p.canvas = canvas
  shown : ∀ g, p.player.gate = some g →
    g.Sound ∧ p.surface.stage.buttons = g.shown layout canvas

variable {layout : GateLayout Float32} {canvas : CanvasSize}

theorem Displays.congr {p q : Playback} (h : Displays layout canvas p)
    (config : q.player.config = p.player.config) (gate : q.player.gate = p.player.gate)
    (size : q.surface.stage.canvas = p.surface.stage.canvas)
    (buttons : q.surface.stage.buttons = p.surface.stage.buttons) : Displays layout canvas q := by
  refine ⟨config ▸ h.measures, size.trans h.size, ?_⟩
  rw [gate, buttons]
  exact h.shown

theorem Displays.redrawn {p q : Playback} (h : Displays layout canvas p)
    (config : q.player.config = p.player.config) (gate : q.player.gate = p.player.gate)
    (surface : p.surface.Redrawn q.surface) : Displays layout canvas q :=
  h.congr config gate surface.canvas surface.buttons

/-- A new gate takes the place of the one before it. -/
theorem displays_opened {p q : Playback} {e : Event} {gate : Gate} (h : Displays layout canvas p)
    (opens : e.Opens gate) (config : q.player.config = p.player.config)
    (gated : q.player.gate = some gate)
    (surface : q.surface = ((p.surface.perform .clearButtons).perform
      (.setAdvanceEnabled false)).performAll
        ((gate.buttons p.player.config.layout p.canvas).map .addButton)) :
    Displays layout canvas q := by
  refine ⟨config ▸ h.measures, ?_, ?_⟩
  · rw [← h.size]
    simp [Playback.canvas, surface, Stage.apply]
  · intro g same
    obtain rfl : gate = g := Option.some.inj (gated.symm.trans same)
    refine ⟨Gate.sound_of_opens opens, ?_⟩
    rw [Gate.shown_of_opens layout canvas opens]
    simp [surface, Stage.apply, h.measures, h.size]

theorem displays_blocked {p q : Playback} {e : Event} {g : Progress}
    (h : Displays layout canvas p) (blocked : Blocked p q e g) :
    Displays layout canvas (q.settle g).2 := by
  cases blocked with
  | typing text hidden player surface | waiting player surface =>
    exact h.redrawn (by simp [player]) (by simp [player]) surface
  | stalled player surface | restart player surface | scene player surface =>
    exact h.congr (by simp [player]) (by simp [player]) (by simp [surface]) (by simp [surface])
  | gate opens player surface =>
    exact displays_opened h opens (by simp [player]) (by simp [player]) surface

theorem displays_ran {p m : Playback} {timeline : Timeline} {g : Progress}
    (h : Displays layout canvas p) (ran : Ran p timeline g m) :
    Displays layout canvas (m.settle g).2 := by
  cases ran with
  | @ended q _ events left passed player surface =>
    have moved : Displays layout canvas q :=
      h.redrawn (by rw [passed.player]) (by rw [passed.player]) passed.surface
    exact moved.congr (by simp [player]) (by simp [player]) (by simp [surface]) (by simp [surface])
  | @blocked q _ events rest e g left passed blocked =>
    have moved : Displays layout canvas (q.passing e) :=
      h.redrawn (by simp [passed.player]) (by simp [passed.player]) (by simpa using passed.surface)
    exact displays_blocked moved blocked

/-- Nothing is shown of the gate of an earlier timeline. -/
theorem displays_startAt (p : Playback) (timeline : Timeline) (index : Nat) :
    Displays p.player.config.layout p.canvas (p.startAt timeline index).2 := by
  have ready := p.readied_ready timeline index
  have ungated : Displays p.player.config.layout p.canvas (p.readied timeline index) :=
    ⟨by simp, by simp, by simp [ready.gate]⟩
  exact displays_ran ungated (run_ran _)

/-- A press that selects nothing and takes nothing back leaves the screen as it was. -/
theorem displays_pressed {p q : Playback} {gate : Gate} {id : Nat} (h : Displays layout canvas p)
    (gated : p.player.gate = some gate)
    (quiet : ∀ option state, (gate.press id).1 ≠ .toggled option state)
    (config : q.player.config = p.player.config) (kept : q.player.gate = some (gate.press id).2)
    (size : q.surface.stage.canvas = p.surface.stage.canvas)
    (buttons : q.surface.stage.buttons = p.surface.stage.buttons) : Displays layout canvas q := by
  rw [Gate.press_kept quiet, ← gated] at kept
  exact h.congr config kept size buttons

theorem displays_step {p q : Playback} {c : Call} {g : Progress} (h : Displays layout canvas p)
    (step : Step p q c g) : Displays layout canvas q := by
  cases step with
  | finished navigation same => exact same ▸ h
  | ungated navigation gate same => exact same ▸ h
  | unshown navigation reveal same => exact same ▸ h
  | ignored navigation enabled player surface =>
    exact h.congr (by rw [player]) (by rw [player]) (by rw [surface]) (by rw [surface])
  | completed navigation enabled shown player surface =>
    exact h.redrawn (by rw [player]) (by rw [player]) (surface ▸ .perform _ rfl)
  | @ran m g navigation enabled reveal run player surface =>
    have settled : Displays layout canvas (m.settle g).2 := displays_ran h (ran_of_run run)
    exact settled.congr (by rw [player]; rfl) (by rw [player]; rfl) (by rw [surface]; rfl)
      (by rw [surface]; rfl)
  | refused navigation gated pressed player surface =>
    refine displays_pressed h gated ?_ (by rw [player]) (by rw [player]) (by rw [surface])
      (by rw [surface])
    simp [pressed]
  | resolved navigation gated pressed player surface =>
    refine displays_pressed h gated ?_ (by rw [player]) (by rw [player]) (by rw [surface])
      (by rw [surface])
    simp [pressed]
  | fellBack navigation gated pressed player surface =>
    refine displays_pressed h gated ?_ (by rw [player]) (by rw [player])
      (by simp [surface]) (by simp [surface, Stage.apply])
    simp [pressed]
  | @toggled id option gate state navigation gated pressed player surface =>
    obtain ⟨sound, screen⟩ := h.shown gate gated
    refine ⟨by rw [player]; exact h.measures, ?_, ?_⟩
    · simpa [Playback.canvas, surface] using h.size
    · intro g same
      obtain rfl : (gate.press id).2 = g := by simpa [player] using same
      refine ⟨Gate.sound_press sound id, ?_⟩
      rw [Gate.shown_press layout canvas sound pressed, ← screen, surface]
      rfl
  | showing navigation shown ticked incomplete player surface
  | shown navigation shown ticked complete player surface =>
    exact h.redrawn (by rw [player]) (by rw [player]) surface

theorem displays_calls {p : Playback} {o : Opening} {r s : Progress × Playback} {cs : List Call}
    (ho : p.opened o = .ok r) (hc : calls r cs = .ok s) :
    Displays p.player.config.layout p.canvas s.2 := by
  obtain ⟨name, timeline, index, rfl⟩ := opened_named ho
  exact calls_invariant (fun r => Displays p.player.config.layout p.canvas r.2) displays_step hc
    (displays_startAt { p with player.timelineKey := name } timeline index)

/-- The surface of a player shows its gate and no other buttons, whatever was asked of the player,
also when the gate led nowhere before. The options of a set are shown in an order that leaves out
none: no random number makes a shuffle reach beyond its items. -/
theorem screen_shows_gate {p : Playback} {o : Opening} {r s : Progress × Playback}
    {cs : List Call} (ho : p.opened o = .ok r) (hc : calls r cs = .ok s) {g : Gate}
    (gated : s.2.player.gate = some g) :
    g.Screened p.player.config.layout p.canvas s.2.surface.stage.buttons ∧
      (∀ m, g = .multi m → m.Arranged) ∧
      ∀ (random : Random) (items : List Nat),
        random.shuffle? items = some (random.shuffle items) := by
  obtain ⟨sound, screen⟩ := (displays_calls ho hc).shown g gated
  refine ⟨?_, ?_, ?_⟩
  · rw [screen]
    exact Gate.screened_shown sound
  · rintro m rfl
    exact sound.arranged
  · intro random items
    exact random.shuffle?_eq items

/-- A gate with more buttons than the one behind it, of which one option may be selected. -/
def twoGates : Timeline :=
  [.choice [⟨"Stay", ""⟩, ⟨"Wait", ""⟩, ⟨"Go", "next"⟩, ⟨"Run", "next"⟩],
    .multiChoice {
      choices := [⟨"A", true, false, none⟩, ⟨"B", false, false, none⟩]
      correctKey := "next"
      incorrectKey := ""
      maxSelect := some 1 }]

/-- The first gate led nowhere, and its buttons are gone. Of the options the one that is shown
second is selected, and the other one was refused. -/
theorem screen_shows_second_gate :
    ∃ s m, calls (fresh.start twoGates) [.press 1, .advance, .press 1, .press 0] = .ok s ∧
      s.2.player.gate = some (.multi m) ∧
      s.2.surface.stage.buttons.map (·.1.id) = [0, 1, 2] ∧
      s.2.surface.stage.buttons.map (·.2) = [.idle, .selected, .idle] ∧
      ∀ option, m.order[1]? = some option → option ∈ m.selected := by
  have made : ∃ s m,
      calls (fresh.start twoGates) [.press 1, .advance, .press 1, .press 0] = .ok s ∧
        s.2.player.gate = some (.multi m) ∧ m.options.length = 2 ∧
          s.2.surface.stage.buttons.map (·.2) = [.idle, .selected, .idle] :=
    ⟨_, _, rfl, rfl, rfl, rfl⟩
  obtain ⟨s, m, hs, gated, count, states⟩ := made
  obtain ⟨screened, -, -⟩ :=
    screen_shows_gate (show fresh.opened (.start twoGates) = .ok _ from rfl) hs gated
  refine ⟨s, m, hs, gated, ?_, states, ?_⟩
  · rw [screened.numbers, Gate.buttonCount, count]
    rfl
  · intro option there
    obtain ⟨b, second, -, selected_iff⟩ := screened.toggles m rfl 1 option there
    have state : (s.2.surface.stage.buttons.map (·.2))[1]? = some b.2 := by
      rw [List.getElem?_map, second]
      rfl
    rw [states] at state
    exact selected_iff.1 (Option.some.inj state).symm

end Playback

end VisualNovel
