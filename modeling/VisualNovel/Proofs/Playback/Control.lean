import VisualNovel.Proofs.Playback.Calls

namespace VisualNovel.Playback

/-- How the flags, the gate and the answers of a player go together. -/
structure Controlled (p : Playback) : Prop where
  /-- The surface takes pointer downs when the player does. -/
  agree : p.player.advanceEnabled = p.surface.stage.advanceEnabled
  choosing_iff : p.player.navigation = none →
    (p.player.progress = .waitChoice ↔ p.player.advanceEnabled = false)
  choosing : p.player.navigation = none → p.player.progress = .waitChoice →
    p.player.gate.isSome = true ∧ p.player.reveal = none
  enabled_of_reveal : p.player.reveal.isSome = true → p.player.advanceEnabled = true
  navigation_iff : ∀ n, p.player.navigation = some n ↔ p.player.progress = .navigate n

theorem Controlled.congr {p q : Playback} (h : Controlled p) (player : q.player = p.player)
    (stage : q.surface.stage.advanceEnabled = p.surface.stage.advanceEnabled) : Controlled q := by
  constructor
  · rw [player, stage]
    exact h.agree
  · rw [player]
    exact h.choosing_iff
  · rw [player]
    exact h.choosing
  · rw [player]
    exact h.enabled_of_reveal
  · rw [player]
    exact h.navigation_iff

/-- Nothing is shown and nothing is asked when a player runs on, so that only the event at which it
stops takes or gives control. -/
theorem controlled_blocked {p q : Playback} {e : Event} {g : Progress}
    (agree : p.player.advanceEnabled = p.surface.stage.advanceEnabled)
    (enabled : p.player.advanceEnabled = true) (reveal : p.player.reveal = none)
    (navigation : p.player.navigation = none) (h : Blocked p q e g) :
    Controlled (q.settle g).2 := by
  cases h with
  | typing text hidden player surface =>
    constructor <;> simp [player, surface.advanceEnabled, ← agree, enabled, navigation]
  | waiting player surface =>
    constructor <;> simp [player, surface.advanceEnabled, ← agree, enabled, navigation, reveal]
  | stalled player surface =>
    constructor <;> simp [player, surface, ← agree, enabled, navigation, reveal]
  | restart player surface =>
    constructor <;> simp [player, surface, ← agree, enabled, reveal]
  | scene player surface =>
    constructor <;> simp [player, surface, ← agree, enabled, reveal]
  | gate opens player surface =>
    constructor <;> simp [player, surface, navigation, reveal, Stage.apply]

theorem controlled_ran {p m : Playback} {timeline : Timeline} {g : Progress}
    (agree : p.player.advanceEnabled = p.surface.stage.advanceEnabled)
    (enabled : p.player.advanceEnabled = true) (reveal : p.player.reveal = none)
    (navigation : p.player.navigation = none) (h : Ran p timeline g m) :
    Controlled (m.settle g).2 := by
  cases h with
  | ended left passed player surface =>
    constructor <;> simp [player, surface, passed.player, passed.surface.advanceEnabled, ← agree,
      enabled, reveal, navigation]
  | blocked left passed blocked =>
    refine controlled_blocked ?_ ?_ ?_ ?_ blocked
    · simpa [passed.player, passed.surface.advanceEnabled] using agree
    · simpa [passed.player] using enabled
    · simpa [passed.player] using reveal
    · simpa [passed.player] using navigation

theorem controlled_startAt (p : Playback) (timeline : Timeline) (index : Nat) :
    Controlled (p.startAt timeline index).2 := by
  obtain ⟨m, ready, start⟩ := startAt_ready p timeline index
  rw [start]
  exact controlled_ran (ready.enabled.trans ready.stage.symm) ready.enabled ready.reveal
    ready.navigation (run_ran m)

/-- A press that is answered with the stored progress only changes what is selected. -/
theorem controlled_kept {p q : Playback} {gate : Gate} (h : Controlled p)
    (navigation : p.player.navigation = none)
    (player : q.player = { p.player with gate := some gate })
    (stage : q.surface.stage.advanceEnabled = p.surface.stage.advanceEnabled) : Controlled q := by
  constructor
  · simpa [player, stage] using h.agree
  · simpa [player] using h.choosing_iff
  · intro _ waiting
    simpa [player] using (h.choosing navigation (by simpa [player] using waiting)).2
  · simpa [player] using h.enabled_of_reveal
  · simpa [player] using h.navigation_iff

theorem controlled_step {p q : Playback} {c : Call} {g : Progress} (h : Controlled p)
    (step : Step p q c g) : Controlled q := by
  cases step with
  | finished navigation same => exact same ▸ h
  | ungated navigation gate same => exact same ▸ h
  | unshown navigation reveal same => exact same ▸ h
  | ignored navigation enabled player surface => exact h.congr player (by rw [surface])
  | completed navigation enabled shown player surface =>
    constructor <;> simp [player, surface, navigation, enabled, ← h.agree, Stage.apply]
  | @ran m g navigation enabled reveal run player surface =>
    have settled : Controlled (m.settle g).2 :=
      controlled_ran h.agree enabled reveal navigation (ran_of_run run)
    exact settled.congr player (by rw [surface, settle_surface])
  | refused navigation gated pressed player surface =>
    exact controlled_kept h navigation player (by rw [surface])
  | toggled navigation gated pressed player surface =>
    exact controlled_kept h navigation player (by simp [surface, Stage.apply])
  | resolved navigation gated pressed player surface =>
    constructor
    · simpa [player, surface] using h.agree
    · simp [player]
    · simp [player]
    · simpa [player] using h.enabled_of_reveal
    · simp [player]
  | fellBack navigation gated pressed player surface =>
    -- a line may be shown, but it takes pointer downs as the player does now
    constructor <;> simp [player, surface, navigation, Stage.apply]
  | showing navigation shown ticked incomplete player surface =>
    have enabled := h.enabled_of_reveal (by simp [shown])
    constructor
    · simpa [player, surface.advanceEnabled] using h.agree
    · simpa [player] using h.choosing_iff
    · -- no gate is waited for while a line is shown
      intro _ waiting
      have hidden := (h.choosing navigation (by simpa [player] using waiting)).2
      simp [shown] at hidden
    · simp [player, enabled]
    · simpa [player] using h.navigation_iff
  | shown navigation shown ticked complete player surface =>
    have enabled := h.enabled_of_reveal (by simp [shown])
    constructor <;> simp [player, surface.advanceEnabled, navigation, enabled, ← h.agree]

theorem controlled_calls {p : Playback} {o : Opening} {r s : Progress × Playback} {cs : List Call}
    (ho : p.opened o = .ok r) (hc : calls r cs = .ok s) : Controlled s.2 := by
  obtain ⟨q, timeline, index, rfl⟩ := opened_startAt ho
  exact calls_invariant (fun r => Controlled r.2) controlled_step hc
    (controlled_startAt q timeline index)

theorem advance_completes {p : Playback} {reveal : Reveal} (h : Controlled p)
    (navigation : p.player.navigation = none) (shown : p.player.reveal = some reveal) :
    p.advance.1 = .waitInput ∧ p.advance.2.player.reveal = none ∧
      p.advance.2.surface.stage.dialogText = reveal.text := by
  have enabled := h.enabled_of_reveal (by simp [shown])
  simp [advance, navigation, enabled, shown, Stage.apply]

/-- Control of a player, however its timeline was begun and whatever it was asked to do since. -/
theorem control_after_calls {p : Playback} {o : Opening} {r s : Progress × Playback}
    {cs : List Call} (ho : p.opened o = .ok r) (hc : calls r cs = .ok s) :
    Controlled s.2 ∧
      (∀ reveal, s.2.player.navigation = none → s.2.player.reveal = some reveal →
        s.2.advance.1 = .waitInput ∧ s.2.advance.2.player.reveal = none ∧
          s.2.advance.2.surface.stage.dialogText = reveal.text) ∧
      ∀ n, s.2.player.navigation = some n →
        ∀ more c, calls s (more ++ [c]) = .ok (.finished, s.2) := by
  have controlled := controlled_calls ho hc
  refine ⟨controlled, ?_, ?_⟩
  · intro reveal navigation shown
    exact advance_completes controlled navigation shown
  · intro n navigation more c
    exact calls_finished navigation more c

/-- A gate that led nowhere is pressed again while a line is shown, and then leads on. -/
theorem control_after_leftover_gate :
    ∃ s, calls (fresh.start [.choice [⟨"Stay", ""⟩, ⟨"Go", "next"⟩], .dialog { text := "Hi" }])
        [.press 0, .advance, .press 1] = .ok s ∧
      s.2.player.reveal.isSome = true ∧ s.2.player.advanceEnabled = true ∧
      s.2.player.navigation = some (.restart "next") ∧
      s.2.player.progress = .navigate (.restart "next") ∧
      calls s [.tick .longest, .advance] = .ok (.finished, s.2) := by
  have begun : fresh.opened
      (.start [.choice [⟨"Stay", ""⟩, ⟨"Go", "next"⟩], .dialog { text := "Hi" }]) =
        .ok (fresh.start [.choice [⟨"Stay", ""⟩, ⟨"Go", "next"⟩], .dialog { text := "Hi" }]) := rfl
  have made : ∃ s, calls
      (fresh.start [.choice [⟨"Stay", ""⟩, ⟨"Go", "next"⟩], .dialog { text := "Hi" }])
        [.press 0, .advance, .press 1] = .ok s ∧
      s.2.player.reveal.isSome = true ∧ s.2.player.navigation = some (.restart "next") :=
    ⟨_, rfl, rfl, rfl⟩
  obtain ⟨s, hs, shown, navigation⟩ := made
  obtain ⟨controlled, -, kept⟩ := control_after_calls begun hs
  exact ⟨s, hs, shown, controlled.enabled_of_reveal shown, navigation,
    (controlled.navigation_iff _).1 navigation, kept _ navigation [.tick .longest] .advance⟩

end VisualNovel.Playback
