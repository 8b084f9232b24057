import VisualNovel.Proofs.Gate
import VisualNovel.Proofs.Playback.Fields

/-!
Everything that a step of a player can do, as rules. The rules name the parts of the player and of
the surface that change; whatever else they had stays as it was.
-/

namespace VisualNovel

namespace Playback

/-- What comes of a blocking event. -/
inductive Blocked (p q : Playback) : Event → Progress → Prop where
  | typing {line : DialogLine} {style : TextStyle} {reveal : Reveal}
      (text : reveal.text = line.text) (hidden : reveal.isComplete = false)
      (player : q.player = { p.player with dialogStyle := style, reveal := some reveal })
      (surface : p.surface.Redrawn q.surface) : Blocked p q (.dialog line) .typing
  | waiting {e : Event} {style : TextStyle}
      (player : q.player = { p.player with dialogStyle := style })
      (surface : p.surface.Redrawn q.surface) : Blocked p q e .waitInput
  | stalled (player : q.player = p.player) (surface : q.surface = p.surface) :
      Blocked p q .unknown .stalled
  | restart {key : String}
      (player : q.player = { p.player with navigation := some (.restart key) })
      (surface : q.surface = p.surface) :
      Blocked p q (.timelineTransition key) (.navigate (.restart key))
  | scene {jump : SceneJump}
      (player : q.player = { p.player with navigation := some (.scene jump.key jump.data) })
      (surface : q.surface = p.surface) :
      Blocked p q (.sceneTransition jump) (.navigate (.scene jump.key jump.data))
  | gate {e : Event} {gate : Gate} {random : Random} (opens : e.Opens gate)
      (player : q.player =
        { p.player with random := random, advanceEnabled := false, gate := some gate })
      (surface : q.surface = ((p.surface.perform .clearButtons).perform
        (.setAdvanceEnabled false)).performAll
          ((gate.buttons p.player.config.layout p.canvas).map .addButton)) :
      Blocked p q e .waitChoice

theorem showLine_blocked (p : Playback) (line : DialogLine) :
    Blocked p (p.showLine line).2 (.dialog line) (p.showLine line).1 := by
  have drawn : p.surface.Redrawn ((p.surface.perform (actorCommand line)).perform
      (.setDialogText "" ⟨line.textFillColor, line.textFillAlpha⟩)) :=
    (Surface.Redrawn.perform _ (actorCommand_isControl line)).trans (.perform _ rfl)
  unfold showLine
  dsimp only
  split
  · exact .waiting rfl drawn
  · exact .typing rfl (Bool.eq_false_iff.2 ‹_›) rfl drawn

theorem block_blocked (p : Playback) (e : Event) : Blocked p (p.block e).2 e (p.block e).1 := by
  cases e with
  | dialog line => exact showLine_blocked p line
  | timelineTransition key => exact .restart (navigate_player p _) (navigate_surface p _)
  | sceneTransition jump => exact .scene (navigate_player p _) (navigate_surface p _)
  | choice options =>
    simp only [block]
    split
    · exact .waiting rfl (.refl _)
    · next nonempty =>
      exact .gate (.choice (by simpa using nonempty)) (openGate_player p _) (openGate_surface p _)
  | multiChoice set =>
    obtain ⟨order, hgate, perm⟩ := Gate.Multi.forSet_order_perm set p.player.random
    by_cases empty : set.choices = []
    · simp only [block, empty, List.isEmpty_nil, if_true]
      exact .waiting rfl (.refl _)
    · have opens : (Event.multiChoice set).Opens
          (.multi (Gate.Multi.forSet set p.player.random).1) :=
        hgate ▸ .multiChoice empty perm
      have player : (p.block (.multiChoice set)).2.player =
          { p.player with
            random := (Gate.Multi.forSet set p.player.random).2
            advanceEnabled := false
            gate := some (.multi (Gate.Multi.forSet set p.player.random).1) } := by
        simp [block, empty]
      have waits : (p.block (.multiChoice set)).1 = .waitChoice := by simp [block, empty]
      rw [waits]
      exact .gate opens player (by simp [block, empty, canvas])
  | showWebLink link => exact .waiting rfl (.perform _ rfl)
  | unknown => exact .stalled (note_player p _) (note_surface p _)
  | _ => exact .waiting (apply_player p _) (apply_redrawn p _)

/-- Events are carried out one after another, and none of them holds the player up. -/
structure Passed (p q : Playback) (events : List Event) : Prop where
  immediate : ∀ e ∈ events, e.pacing = .immediate
  player : q.player = { p.player with index := p.player.index + events.length }
  surface : p.surface.Redrawn q.surface

/-- How a player comes to a stop in a timeline. -/
inductive Ran (p : Playback) (timeline : Timeline) : Progress → Playback → Prop where
  | ended {q m : Playback} {events : List Event} (left : timeline.drop p.player.index = events)
      (passed : Passed p q events) (player : m.player = q.player)
      (surface : m.surface = q.surface) : Ran p timeline .ended m
  | blocked {q m : Playback} {events rest : List Event} {e : Event} {g : Progress}
      (left : timeline.drop p.player.index = events ++ e :: rest) (passed : Passed p q events)
      (blocked : Blocked (q.passing e) m e g) : Ran p timeline g m

theorem passed_nil (p : Playback) : Passed p p [] := ⟨by simp, rfl, .refl _⟩

theorem passed_cons {p q : Playback} {e : Event} {events : List Event} (he : e.pacing = .immediate)
    (h : Passed ((p.passing e).apply e) q events) : Passed p q (e :: events) := by
  have drawn : p.surface.Redrawn ((p.passing e).apply e).surface := by
    simpa using apply_redrawn (p.passing e) e
  refine ⟨List.forall_mem_cons.2 ⟨he, h.immediate⟩, ?_, drawn.trans h.surface⟩
  rw [h.player]
  simp [Nat.add_assoc, Nat.add_comm 1]

theorem runThrough_cases (p : Playback) (left : List Event) :
    (∃ q, Passed p q left ∧ p.runThrough left = (.ended, q.note (.reachedEnd q.player.index))) ∨
      ∃ q events e rest, left = events ++ e :: rest ∧ Passed p q events ∧ e.pacing = .blocking ∧
        p.runThrough left = (q.passing e).block e := by
  induction left generalizing p with
  | nil => exact .inl ⟨p, passed_nil p, rfl⟩
  | cons e rest ih =>
    cases he : e.pacing with
    | blocking =>
      exact .inr ⟨p, [], e, rest, rfl, passed_nil p, he, by simp only [runThrough, he]⟩
    | immediate =>
      have next : p.runThrough (e :: rest) = ((p.passing e).apply e).runThrough rest := by
        simp only [runThrough, he]
      rw [next]
      obtain ⟨q, hq, h⟩ | ⟨q, events, e', rest', rfl, hq, h⟩ := ih ((p.passing e).apply e)
      · exact .inl ⟨q, passed_cons he hq, h⟩
      · exact .inr ⟨q, e :: events, e', rest', rfl, passed_cons he hq, h⟩

/-- A player without a timeline has come to the end of nothing. -/
theorem run_ran (p : Playback) : Ran p (p.player.timeline.getD []) p.run.1 p.run.2 := by
  unfold run
  cases p.player.timeline with
  | none => exact .ended List.drop_nil (passed_nil p) rfl rfl
  | some timeline =>
    dsimp only [Option.getD_some]
    obtain ⟨q, hq, run⟩ | ⟨q, events, e, rest, left, hq, -, run⟩ :=
      runThrough_cases p (timeline.drop p.player.index)
    · rw [run]
      exact .ended rfl hq (note_player q _) (note_surface q _)
    · rw [run]
      exact .blocked left hq (block_blocked _ e)

theorem ran_of_run {p m : Playback} {g : Progress} (h : p.run = (g, m)) :
    Ran p (p.player.timeline.getD []) g m := by
  have ran := run_ran p
  rwa [h] at ran

/-- What can be asked of a player whose timeline was begun. -/
inductive Call where
  | advance
  | press (id : Nat)
  | tick (time : Duration)

def call (p : Playback) : Call → Except ClockOverflow (Progress × Playback)
  | .advance => .ok p.advance
  | .press id => .ok (p.press id)
  | .tick time => p.tick time

/-- What a call does and answers. -/
inductive Step (p q : Playback) : Call → Progress → Prop where
  | finished {c : Call} {n : Navigation} (navigation : p.player.navigation = some n)
      (same : q = p) : Step p q c .finished
  | ignored (navigation : p.player.navigation = none) (enabled : p.player.advanceEnabled = false)
      (player : q.player = p.player) (surface : q.surface = p.surface) :
      Step p q .advance p.player.progress
  | completed {reveal : Reveal} (navigation : p.player.navigation = none)
      (enabled : p.player.advanceEnabled = true) (shown : p.player.reveal = some reveal)
      (player : q.player = { p.player with reveal := none, progress := .waitInput })
      (surface : q.surface = p.surface.perform (.setDialogText reveal.text p.player.dialogStyle)) :
      Step p q .advance .waitInput
  | ran {m : Playback} {g : Progress} (navigation : p.player.navigation = none)
      (enabled : p.player.advanceEnabled = true) (reveal : p.player.reveal = none)
      (run : p.run = (g, m)) (player : q.player = { m.player with progress := g })
      (surface : q.surface = m.surface) : Step p q .advance g
  | ungated {id : Nat} (navigation : p.player.navigation = none) (gate : p.player.gate = none)
      (same : q = p) : Step p q (.press id) p.player.progress
  | refused {id : Nat} {gate : Gate} {reason : Gate.Refusal}
      (navigation : p.player.navigation = none) (gated : p.player.gate = some gate)
      (pressed : (gate.press id).1 = .refused reason)
      (player : q.player = { p.player with gate := some (gate.press id).2 })
      (surface : q.surface = p.surface) : Step p q (.press id) p.player.progress
  | toggled {id option : Nat} {gate : Gate} {state : ButtonState}
      (navigation : p.player.navigation = none)
      (gated : p.player.gate = some gate) (pressed : (gate.press id).1 = .toggled option state)
      (player : q.player = { p.player with gate := some (gate.press id).2 })
      (surface : q.surface = p.surface.perform (.setButtonState id state)) :
      Step p q (.press id) p.player.progress
  | resolved {id : Nat} {gate : Gate} {key : String} {verdict : Option Gate.Verdict}
      (navigation : p.player.navigation = none)
      (gated : p.player.gate = some gate) (pressed : (gate.press id).1 = .resolved key verdict)
      (player : q.player = { p.player with
        gate := some (gate.press id).2
        navigation := some (.restart key)
        progress := .navigate (.restart key) })
      (surface : q.surface = p.surface) : Step p q (.press id) (.navigate (.restart key))
  | fellBack {id : Nat} {gate : Gate} {verdict : Option Gate.Verdict}
      (navigation : p.player.navigation = none)
      (gated : p.player.gate = some gate) (pressed : (gate.press id).1 = .fallback verdict)
      (player : q.player = { p.player with
        gate := some (gate.press id).2
        advanceEnabled := true
        progress := .waitInput })
      (surface : q.surface = p.surface.perform (.setAdvanceEnabled true)) :
      Step p q (.press id) .waitInput
  | unshown {time : Duration} (navigation : p.player.navigation = none)
      (reveal : p.player.reveal = none) (same : q = p) : Step p q (.tick time) p.player.progress
  | showing {time : Duration} {reveal later : Reveal} {more : Bool}
      (navigation : p.player.navigation = none) (shown : p.player.reveal = some reveal)
      (ticked : reveal.tick time = .ok (more, later)) (incomplete : later.isComplete = false)
      (player : q.player = { p.player with reveal := some later })
      (surface : p.surface.Redrawn q.surface) : Step p q (.tick time) .typing
  | shown {time : Duration} {reveal later : Reveal} {more : Bool}
      (navigation : p.player.navigation = none) (shown : p.player.reveal = some reveal)
      (ticked : reveal.tick time = .ok (more, later)) (complete : later.isComplete = true)
      (player : q.player = { p.player with reveal := none, progress := .waitInput })
      (surface : p.surface.Redrawn q.surface) : Step p q (.tick time) .waitInput

theorem advance_step (p : Playback) : Step p p.advance.2 .advance p.advance.1 := by
  unfold advance
  cases navigation : p.player.navigation with
  | some n => exact .finished navigation rfl
  | none =>
    cases enabled : p.player.advanceEnabled with
    | false => exact .ignored navigation enabled (note_player p _) (note_surface p _)
    | true =>
      cases shown : p.player.reveal with
      | some reveal => exact .completed navigation enabled shown (by simp) (by simp)
      | none => exact .ran navigation enabled shown rfl rfl rfl

theorem advance_ignored {p : Playback} (navigation : p.player.navigation = none)
    (enabled : p.player.advanceEnabled = false) :
    p.advance = (p.player.progress, p.note .advanceIgnored) := by
  unfold advance
  rw [if_neg (by simp [navigation]), if_pos (by simp [enabled])]

theorem advance_shown {p : Playback} {reveal : Reveal} (navigation : p.player.navigation = none)
    (enabled : p.player.advanceEnabled = true) (shown : p.player.reveal = some reveal) :
    p.advance = (({ p with player.reveal := none }.perform
      (.setDialogText reveal.text p.player.dialogStyle)).note .lineCompleted).settle .waitInput := by
  unfold advance
  rw [if_neg (by simp [navigation]), if_neg (by simp [enabled])]
  simp only [shown]

theorem advance_run {p : Playback} (navigation : p.player.navigation = none)
    (enabled : p.player.advanceEnabled = true) (shown : p.player.reveal = none) :
    p.advance = p.run.2.settle p.run.1 := by
  unfold advance
  rw [if_neg (by simp [navigation]), if_neg (by simp [enabled])]
  simp only [shown]

theorem press_gated {p : Playback} {gate : Gate} (id : Nat)
    (navigation : p.player.navigation = none) (gated : p.player.gate = some gate) :
    p.press id = ({ p with player.gate := some (gate.press id).2 }.performAll
      ((gate.press id).1.commands id)).respond id (gate.press id).1 := by
  simp only [press, navigation, gated, Option.isSome_none, Bool.false_eq_true, if_false]

theorem press_step (p : Playback) (id : Nat) :
    Step p (p.press id).2 (.press id) (p.press id).1 := by
  cases navigation : p.player.navigation with
  | some n =>
    simp only [press, navigation, Option.isSome_some, if_true]
    exact .finished navigation rfl
  | none =>
    cases gated : p.player.gate with
    | none =>
      simp only [press, navigation, gated, Option.isSome_none, Bool.false_eq_true, if_false]
      exact .ungated navigation gated rfl
    | some gate =>
      rw [press_gated id navigation gated]
      cases pressed : (gate.press id).1 with
      | refused reason =>
        exact .refused navigation gated pressed (note_player _ _) (note_surface _ _)
      | toggled option state =>
        exact .toggled navigation gated pressed (note_player _ _) (note_surface _ _)
      | resolved key verdict =>
        refine .resolved navigation gated pressed ?_ ?_
        · cases verdict <;> simp [respond]
        · cases verdict <;> simp [respond, Gate.Response.commands]
      | fallback verdict =>
        refine .fellBack navigation gated pressed ?_ ?_
        · simp [respond]
        · simp [respond, Gate.Response.commands]

theorem tick_step {p q : Playback} {time : Duration} {g : Progress}
    (h : p.tick time = .ok (g, q)) : Step p q (.tick time) g := by
  unfold tick at h
  cases navigation : p.player.navigation with
  | some n =>
    rw [if_pos (by simp [navigation])] at h
    cases h
    exact .finished navigation rfl
  | none =>
    rw [if_neg (by simp [navigation])] at h
    cases shown : p.player.reveal with
    | none =>
      simp only [shown] at h
      cases h
      exact .unshown navigation shown rfl
    | some reveal =>
      simp only [shown] at h
      cases ticked : reveal.tick time with
      | error e => rw [ticked] at h; cases h
      | ok result =>
        obtain ⟨more, later⟩ := result
        simp only [ticked, bind, Except.bind, pure, Except.pure] at h
        -- the surface is told only of more characters, the player takes the clock in any case
        cases complete : later.isComplete with
        | true =>
          simp only [complete, if_true] at h
          cases h
          refine .shown navigation shown ticked complete ?_ ?_
          · cases more <;> rfl
          · cases more with
            | true => exact .perform _ rfl
            | false => exact .refl _
        | false =>
          simp only [complete, Bool.false_eq_true, if_false] at h
          cases h
          refine .showing navigation shown ticked complete ?_ ?_
          · cases more <;> rfl
          · cases more with
            | true => exact .perform _ rfl
            | false => exact .refl _

theorem call_step {p q : Playback} {c : Call} {g : Progress} (h : p.call c = .ok (g, q)) :
    Step p q c g := by
  cases c with
  | advance =>
    have answer : p.advance = (g, q) := Except.ok.inj h
    simpa only [answer] using advance_step p
  | press id =>
    have answer : p.press id = (g, q) := Except.ok.inj h
    simpa only [answer] using press_step p id
  | tick time => exact tick_step h

/-- An answer is stored, but for those of a line that goes on and of a player that was left. -/
theorem Step.answer {p q : Playback} {c : Call} {g : Progress} (h : Step p q c g) :
    g = q.player.progress ∨ g = .typing ∨ g = .finished := by
  cases h with
  | finished navigation same => exact .inr (.inr rfl)
  | showing navigation shown ticked incomplete player surface => exact .inr (.inl rfl)
  | ungated navigation gate same => exact .inl (by rw [same])
  | unshown navigation reveal same => exact .inl (by rw [same])
  | ignored navigation enabled player surface | completed navigation enabled shown player surface
  | ran navigation enabled reveal run player surface
  | refused navigation gated pressed player surface
  | toggled navigation gated pressed player surface
  | resolved navigation gated pressed player surface
  | fellBack navigation gated pressed player surface
  | shown navigation shown ticked complete player surface => exact .inl (by rw [player])

end Playback

end VisualNovel
