import VisualNovel.Proofs.Playback.Control

namespace VisualNovel.Playback

/-- Nothing is left to play, to show or to ask. -/
structure Spent (p : Playback) : Prop where
  navigation : p.player.navigation = none
  enabled : p.player.advanceEnabled = true
  reveal : p.player.reveal = none
  gate : p.player.gate = none
  progress : p.player.progress = .ended
  left : (p.player.timeline.getD []).drop p.player.index = []

theorem Spent.congr {p q : Playback} (h : Spent p) (player : q.player = p.player) : Spent q := by
  constructor <;> rw [player]
  · exact h.navigation
  · exact h.enabled
  · exact h.reveal
  · exact h.gate
  · exact h.progress
  · exact h.left

theorem Spent.run {p : Playback} (h : Spent p) :
    ∃ q, p.run = (.ended, q) ∧ q.player = p.player ∧ q.surface = p.surface := by
  have left := h.left
  unfold Playback.run
  cases timeline : p.player.timeline with
  | none => exact ⟨p, rfl, rfl, rfl⟩
  | some t =>
    rw [timeline, Option.getD_some] at left
    dsimp only
    rw [left]
    exact ⟨_, rfl, note_player p _, note_surface p _⟩

theorem Spent.call {p : Playback} (h : Spent p) (c : Call) :
    ∃ q, p.call c = .ok (.ended, q) ∧ q.player = p.player ∧ q.surface = p.surface := by
  cases c with
  | advance =>
    obtain ⟨q, run, player, surface⟩ := h.run
    have answer : p.advance = q.settle .ended := by
      simp [advance, h.navigation, h.enabled, h.reveal, run]
    refine ⟨(q.settle .ended).2, congrArg Except.ok answer, ?_, surface⟩
    rw [settle_player, player, ← h.progress]
  | press id =>
    exact ⟨p, by simp [Playback.call, press, h.navigation, h.gate, h.progress], rfl, rfl⟩
  | tick time =>
    exact ⟨p, by simp [Playback.call, tick, h.navigation, h.reveal, h.progress], rfl, rfl⟩

theorem Spent.calls {s : Progress × Playback} (h : Spent s.2) (cs : List Call) :
    ∃ t, Playback.calls s cs = .ok t ∧ t.2.player = s.2.player ∧ t.2.surface = s.2.surface := by
  induction cs generalizing s with
  | nil => exact ⟨s, rfl, rfl, rfl⟩
  | cons c rest ih =>
    obtain ⟨q, hq, player, surface⟩ := h.call c
    obtain ⟨t, ht, player', surface'⟩ := ih (s := (.ended, q)) (h.congr player)
    exact ⟨t, calls_cons.2 ⟨_, hq, ht⟩, player'.trans player, surface'.trans surface⟩

/-- What the gate and the end of a timeline look like in a run. -/
structure Traced (p : Playback) : Prop where
  sound : ∀ g, p.player.gate = some g → g.Sound
  /-- A gate that takes no more than its buttons led nowhere before, and so it can be answered. -/
  satisfiable : ∀ g, p.player.gate = some g → p.player.advanceEnabled = true → g.Satisfiable
  reveal : p.player.progress = .ended → p.player.reveal = none
  left : p.player.progress = .ended → (p.player.timeline.getD []).drop p.player.index = []

theorem Traced.congr {p q : Playback} (h : Traced p) (player : q.player = p.player) : Traced q := by
  constructor <;> rw [player]
  · exact h.sound
  · exact h.satisfiable
  · exact h.reveal
  · exact h.left

theorem traced_blocked {p q : Playback} {e : Event} {g : Progress}
    (sound : ∀ g, p.player.gate = some g → g.Sound)
    (satisfiable : ∀ g, p.player.gate = some g → g.Satisfiable) (h : Blocked p q e g) :
    Traced (q.settle g).2 := by
  cases h with
  | gate opens player surface =>
    constructor <;> simp [player, Gate.sound_of_opens opens]
  | typing text hidden player surface | waiting player surface | stalled player surface
  | restart player surface | scene player surface =>
    constructor
    · simpa [player] using sound
    · intro g' gated _
      exact satisfiable g' (by simpa [player] using gated)
    · simp
    · simp

theorem traced_ran {p m : Playback} {g : Progress}
    (sound : ∀ g, p.player.gate = some g → g.Sound)
    (satisfiable : ∀ g, p.player.gate = some g → g.Satisfiable) (reveal : p.player.reveal = none)
    (h : Ran p (p.player.timeline.getD []) g m) : Traced (m.settle g).2 := by
  cases h with
  | @ended q _ events left passed player surface =>
    constructor
    · simpa [player, passed.player] using sound
    · intro g' gated _
      exact satisfiable g' (by simpa [player, passed.player] using gated)
    · simp [player, passed.player, reveal]
    · intro _
      simp only [settle_player, player, passed.player]
      rw [← List.drop_drop, left, List.drop_length]
  | blocked left passed blocked =>
    exact traced_blocked (by simpa [passed.player] using sound)
      (by simpa [passed.player] using satisfiable) blocked

theorem traced_startAt (p : Playback) (timeline : Timeline) (index : Nat) :
    Traced (p.startAt timeline index).2 := by
  obtain ⟨m, ready, start⟩ := startAt_ready p timeline index
  rw [start]
  exact traced_ran (by simp [ready.gate]) (by simp [ready.gate]) ready.reveal (run_ran m)

/-- A press that is answered with the stored progress only changes what is selected. -/
theorem traced_kept {p q : Playback} {gate : Gate} {id : Nat} (h : Traced p)
    (gated : p.player.gate = some gate)
    (player : q.player = { p.player with gate := some (gate.press id).2 }) : Traced q := by
  constructor
  · intro g' hg
    have same : (gate.press id).2 = g' := by simpa [player] using hg
    exact same ▸ Gate.sound_press (h.sound gate gated) id
  · intro g' hg enabled
    have same : (gate.press id).2 = g' := by simpa [player] using hg
    have satisfiable := h.satisfiable gate gated (by simpa [player] using enabled)
    exact same ▸ Gate.satisfiable_press satisfiable id
  · simpa [player] using h.reveal
  · simpa [player] using h.left

theorem traced_step {p q : Playback} {c : Call} {g : Progress} (h : Traced p)
    (step : Step p q c g) : Traced q := by
  cases step with
  | finished navigation same => exact same ▸ h
  | ungated navigation gate same => exact same ▸ h
  | unshown navigation reveal same => exact same ▸ h
  | ignored navigation enabled player surface => exact h.congr player
  | completed navigation enabled shown player surface =>
    constructor
    · simpa [player] using h.sound
    · simpa [player] using h.satisfiable
    · simp [player]
    · simp [player]
  | @ran m g navigation enabled reveal run player surface =>
    have satisfiable := fun g' gated => h.satisfiable g' gated enabled
    have settled : Traced (m.settle g).2 :=
      traced_ran h.sound satisfiable reveal (ran_of_run run)
    exact settled.congr player
  | refused navigation gated pressed player surface => exact traced_kept h gated player
  | toggled navigation gated pressed player surface => exact traced_kept h gated player
  | @resolved id gate key verdict navigation gated pressed player surface =>
    have kept := traced_kept (q := { p with player.gate := some (gate.press id).2 }) h gated rfl
    constructor
    · simpa [player] using kept.sound
    · simpa [player] using kept.satisfiable
    · simp [player]
    · simp [player]
  | @fellBack id gate verdict navigation gated pressed player surface =>
    -- control is given back, so that the bounds of the gate have to be shown to go together
    have sound := h.sound gate gated
    constructor
    · intro g' hg
      have same : (gate.press id).2 = g' := by simpa [player] using hg
      exact same ▸ Gate.sound_press sound id
    · intro g' hg _
      have same : (gate.press id).2 = g' := by simpa [player] using hg
      exact same ▸ Gate.satisfiable_press (Gate.satisfiable_of_fallback sound pressed) id
    · simp [player]
    · simp [player]
  | showing navigation shown ticked incomplete player surface =>
    constructor
    · simpa [player] using h.sound
    · simpa [player] using h.satisfiable
    · intro ended
      have hidden := h.reveal (by simpa [player] using ended)
      simp [shown] at hidden
    · simpa [player] using h.left
  | shown navigation shown ticked complete player surface =>
    constructor
    · simpa [player] using h.sound
    · simpa [player] using h.satisfiable
    · simp [player]
    · simp [player]

theorem traced_calls {p : Playback} {o : Opening} {r s : Progress × Playback} {cs : List Call}
    (ho : p.opened o = .ok r) (hc : calls r cs = .ok s) : Traced s.2 := by
  obtain ⟨q, timeline, index, rfl⟩ := opened_startAt ho
  exact calls_invariant (fun r => Traced r.2) traced_step hc (traced_startAt q timeline index)

theorem navigation_of_ended {p : Playback} (controlled : Controlled p)
    (ended : p.player.progress = .ended) : p.player.navigation = none := by
  cases reported : p.player.navigation with
  | none => rfl
  | some n =>
    have progress := (controlled.navigation_iff n).1 reported
    simp [ended] at progress

theorem enabled_of_ended {p : Playback} (controlled : Controlled p)
    (ended : p.player.progress = .ended) : p.player.advanceEnabled = true := by
  cases flag : p.player.advanceEnabled with
  | true => rfl
  | false =>
    have choosing := (controlled.choosing_iff (navigation_of_ended controlled ended)).2 flag
    simp [ended] at choosing

theorem spent_of_ended {p : Playback} (controlled : Controlled p) (traced : Traced p)
    (ended : p.player.progress = .ended) (gate : p.player.gate = none) : Spent p where
  navigation := navigation_of_ended controlled ended
  enabled := enabled_of_ended controlled ended
  reveal := traced.reveal ended
  gate := gate
  progress := ended
  left := traced.left ended

/-- A gate that is left over at the end takes a press, which changes the progress or the surface. -/
theorem exists_press_of_gate {p : Playback} {gate : Gate} (controlled : Controlled p)
    (traced : Traced p) (ended : p.player.progress = .ended) (gated : p.player.gate = some gate) :
    ∃ id, (p.press id).2.player.progress ≠ .ended ∨ (p.press id).2.surface ≠ p.surface := by
  have enabled := enabled_of_ended controlled ended
  obtain ⟨id, accepted⟩ :=
    Gate.exists_accepted (traced.sound gate gated) (traced.satisfiable gate gated enabled)
  refine ⟨id, ?_⟩
  rw [press_gated id (navigation_of_ended controlled ended) gated]
  cases pressed : (gate.press id).1 with
  | refused reason => exact (accepted reason pressed).elim
  | toggled option state =>
    right
    intro same
    have logs := congrArg (fun s : Surface => s.log.size) same
    simp [respond, Gate.Response.commands, Surface.perform] at logs
  | resolved key verdict =>
    left
    simp [respond]
  | fallback verdict =>
    left
    simp [respond]

/-- The end of a timeline is final exactly when no gate is left over. -/
theorem ended_is_final_iff_no_gate {p : Playback} {o : Opening} {r s : Progress × Playback}
    {cs : List Call} (ho : p.opened o = .ok r) (hc : calls r cs = .ok s)
    (ended : s.2.player.progress = .ended) :
    (∀ more, ∃ t, calls s more = .ok t ∧ t.2.player.progress = .ended ∧
        t.2.player.navigation = none ∧ t.2.player.index = s.2.player.index ∧
          t.2.surface = s.2.surface) ↔
      s.2.player.gate = none := by
  have controlled := controlled_calls ho hc
  have traced := traced_calls ho hc
  constructor
  · intro final
    cases gated : s.2.player.gate with
    | none => rfl
    | some gate =>
      obtain ⟨id, changed⟩ := exists_press_of_gate controlled traced ended gated
      obtain ⟨t, ht, still, -, -, surface⟩ := final [.press id]
      cases ht
      exact (changed.elim (· still) (· surface)).elim
  · intro gate more
    have spent := spent_of_ended controlled traced ended gate
    obtain ⟨t, ht, player, surface⟩ := spent.calls more
    exact ⟨t, ht, player ▸ ended, player ▸ spent.navigation, by rw [player], surface⟩

/-- A gate that led nowhere once is still pressed at the end, and then leads on. -/
theorem ended_then_restart :
    ∃ s t, calls (fresh.start [.choice [⟨"Stay", ""⟩, ⟨"Go", "next"⟩]])
        [.press 0, .advance] = .ok s ∧
      s.2.player.progress = .ended ∧ calls s [.press 1] = .ok t ∧
      t.2.player.progress = .navigate (.restart "next") ∧
      t.2.player.navigation = some (.restart "next") :=
  ⟨_, _, rfl, rfl, rfl, rfl, rfl⟩

theorem ended_after_line :
    ∃ s, calls (fresh.start [.dialog { text := "Hi" }]) [.advance, .advance] = .ok s ∧
      s.2.player.progress = .ended ∧
      ∀ more, ∃ t, calls s more = .ok t ∧ t.2.player.progress = .ended ∧
        t.2.player.navigation = none ∧ t.2.player.index = s.2.player.index ∧
          t.2.surface = s.2.surface := by
  have begun : fresh.opened (.start [.dialog { text := "Hi" }]) =
      .ok (fresh.start [.dialog { text := "Hi" }]) := rfl
  have made : ∃ s, calls (fresh.start [.dialog { text := "Hi" }]) [.advance, .advance] = .ok s ∧
      s.2.player.progress = .ended ∧ s.2.player.gate = none := ⟨_, rfl, rfl, rfl⟩
  obtain ⟨s, hs, ended, gate⟩ := made
  exact ⟨s, hs, ended, (ended_is_final_iff_no_gate begun hs ended).2 gate⟩

end VisualNovel.Playback
