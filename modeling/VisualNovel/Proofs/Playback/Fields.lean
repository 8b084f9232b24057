import VisualNovel.Playback.Step

namespace VisualNovel

/-- Commands about buttons and pointer downs, apart from all that is seen and heard. -/
def Command.isControl : Command → Bool
  | .addButton _ => true
  | .setButtonState _ _ => true
  | .clearButtons => true
  | .setAdvanceEnabled _ => true
  | _ => false

@[simp] theorem Stage.apply_canvas (s : Stage) (c : Command) : (s.apply c).canvas = s.canvas := by
  cases c <;> rfl

/-- One surface comes from the other without a change of buttons and pointer downs. -/
def Surface.Redrawn (s t : Surface) : Prop :=
  ∃ commands : List Command, t = s.performAll commands ∧ ∀ c ∈ commands, c.isControl = false

namespace Surface

@[simp] theorem perform_stage (s : Surface) (c : Command) :
    (s.perform c).stage = s.stage.apply c := rfl

@[simp] theorem performAll_nil (s : Surface) : s.performAll [] = s := rfl

@[simp] theorem performAll_singleton (s : Surface) (c : Command) :
    s.performAll [c] = s.perform c := rfl

theorem performAll_cons (s : Surface) (c : Command) (rest : List Command) :
    s.performAll (c :: rest) = (s.perform c).performAll rest := rfl

@[simp] theorem performAll_canvas (s : Surface) (commands : List Command) :
    (s.performAll commands).stage.canvas = s.stage.canvas := by
  induction commands generalizing s with
  | nil => rfl
  | cons c rest ih => rw [performAll_cons, ih, perform_stage, Stage.apply_canvas]

@[simp] theorem addButtons_stage (s : Surface) (buttons : List Button) :
    (s.performAll (buttons.map .addButton)).stage =
      { s.stage with buttons := s.stage.buttons ++ buttons.map (·, .idle) } := by
  induction buttons generalizing s with
  | nil => simp
  | cons b rest ih =>
    rw [List.map_cons, performAll_cons, ih]
    simp [Stage.apply]

namespace Redrawn

theorem refl (s : Surface) : s.Redrawn s := ⟨[], rfl, by simp⟩

theorem trans {s t u : Surface} (hst : s.Redrawn t) (htu : t.Redrawn u) : s.Redrawn u := by
  obtain ⟨cs, rfl, hcs⟩ := hst
  obtain ⟨ds, rfl, hds⟩ := htu
  refine ⟨cs ++ ds, (performAll_append s cs ds).symm, ?_⟩
  intro c hc
  exact (List.mem_append.1 hc).elim (hcs c) (hds c)

theorem perform (s : Surface) {c : Command} (h : c.isControl = false) : s.Redrawn (s.perform c) :=
  ⟨[c], rfl, by simpa using h⟩

theorem kept {α : Type} {field : Stage → α} {s t : Surface} (h : s.Redrawn t)
    (untouched : ∀ stage c, c.isControl = false → field (stage.apply c) = field stage) :
    field t.stage = field s.stage := by
  obtain ⟨cs, rfl, hcs⟩ := h
  induction cs generalizing s with
  | nil => rfl
  | cons c rest ih =>
    rw [performAll_cons, ih fun d hd => hcs d (List.mem_cons_of_mem c hd)]
    exact untouched s.stage c (hcs c List.mem_cons_self)

theorem advanceEnabled {s t : Surface} (h : s.Redrawn t) :
    t.stage.advanceEnabled = s.stage.advanceEnabled := by
  refine h.kept fun stage c hc => ?_
  cases c <;> first | rfl | cases hc

theorem buttons {s t : Surface} (h : s.Redrawn t) : t.stage.buttons = s.stage.buttons := by
  refine h.kept fun stage c hc => ?_
  cases c <;> first | rfl | cases hc

theorem canvas {s t : Surface} (h : s.Redrawn t) : t.stage.canvas = s.stage.canvas :=
  h.kept fun stage c _ => stage.apply_canvas c

end Redrawn

end Surface

namespace Playback

@[simp] theorem note_player (p : Playback) (e : Log.Entry) : (p.note e).player = p.player := by
  unfold note
  split <;> rfl

@[simp] theorem note_surface (p : Playback) (e : Log.Entry) : (p.note e).surface = p.surface := by
  unfold note
  split <;> rfl

@[simp] theorem perform_player (p : Playback) (c : Command) : (p.perform c).player = p.player := rfl

@[simp] theorem perform_surface (p : Playback) (c : Command) :
    (p.perform c).surface = p.surface.perform c := rfl

@[simp] theorem performAll_player (p : Playback) (cs : List Command) :
    (p.performAll cs).player = p.player := rfl

@[simp] theorem performAll_surface (p : Playback) (cs : List Command) :
    (p.performAll cs).surface = p.surface.performAll cs := rfl

@[simp] theorem setAdvanceEnabled_player (p : Playback) (enabled : Bool) :
    (p.setAdvanceEnabled enabled).player = { p.player with advanceEnabled := enabled } := rfl

@[simp] theorem setAdvanceEnabled_surface (p : Playback) (enabled : Bool) :
    (p.setAdvanceEnabled enabled).surface = p.surface.perform (.setAdvanceEnabled enabled) := rfl

@[simp] theorem settle_fst (p : Playback) (g : Progress) : (p.settle g).1 = g := rfl

@[simp] theorem settle_player (p : Playback) (g : Progress) :
    (p.settle g).2.player = { p.player with progress := g } := rfl

@[simp] theorem settle_surface (p : Playback) (g : Progress) :
    (p.settle g).2.surface = p.surface := rfl

@[simp] theorem navigate_fst (p : Playback) (n : Navigation) :
    (p.navigate n).1 = .navigate n := rfl

@[simp] theorem navigate_player (p : Playback) (n : Navigation) :
    (p.navigate n).2.player = { p.player with navigation := some n } := by simp [navigate]

@[simp] theorem navigate_surface (p : Playback) (n : Navigation) :
    (p.navigate n).2.surface = p.surface := by simp [navigate]

@[simp] theorem passing_player (p : Playback) (e : Event) :
    (p.passing e).player = { p.player with index := p.player.index + 1 } := by simp [passing]

@[simp] theorem passing_surface (p : Playback) (e : Event) :
    (p.passing e).surface = p.surface := by simp [passing]

@[simp] theorem apply_player (p : Playback) (e : Event) : (p.apply e).player = p.player := by
  cases e <;> simp only [apply] <;> first | rfl | simp | (split <;> simp)

theorem apply_redrawn (p : Playback) (e : Event) : p.surface.Redrawn (p.apply e).surface := by
  cases e with
  | clearDialog =>
    exact (Surface.Redrawn.perform _ rfl).trans (Surface.Redrawn.perform _ rfl)
  | setBackground image =>
    simp only [apply, perform_surface, note_surface]
    exact .perform _ rfl
  | addForeground image =>
    simp only [apply, perform_surface, note_surface]
    exact .perform _ rfl
  | playSound cue =>
    simp only [apply]
    split
    · simpa using Surface.Redrawn.refl _
    · exact .perform _ rfl
  | clearSound key =>
    simp only [apply]
    split
    · exact .perform _ rfl
    · exact .refl _
  | clearBackground | setFrame | clearForeground | hideWebLink => exact .perform _ rfl
  | _ => exact .refl _

theorem actorCommand_isControl (line : DialogLine) : (actorCommand line).isControl = false := by
  unfold actorCommand
  split
  · split <;> rfl
  · rfl

@[simp] theorem openGate_fst (p : Playback) (g : Gate) : (p.openGate g).1 = .waitChoice := rfl

@[simp] theorem openGate_player (p : Playback) (g : Gate) : (p.openGate g).2.player =
    { p.player with advanceEnabled := false, gate := some g } := by
  simp only [openGate, note_player, performAll_player, setAdvanceEnabled_player, perform_player]

@[simp] theorem openGate_surface (p : Playback) (g : Gate) : (p.openGate g).2.surface =
    ((p.surface.perform .clearButtons).perform (.setAdvanceEnabled false)).performAll
      ((g.buttons p.player.config.layout p.canvas).map .addButton) := by
  simp only [openGate, note_surface, performAll_surface, setAdvanceEnabled_surface, perform_surface]
  rfl

end Playback

end VisualNovel
