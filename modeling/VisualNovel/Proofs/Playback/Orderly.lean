import VisualNovel.Proofs.Lint.Quality
import VisualNovel.Proofs.Playback.Control
import VisualNovel.Proofs.Playback.Telling
import VisualNovel.Proofs.Playback.Unreachable

namespace VisualNovel.Playback

/-- A gate is only there while pointer downs are refused, and it leads somewhere with each button. -/
structure Orderly (timeline : Timeline) (p : Playback) : Prop where
  plays : p.player.timeline = some timeline
  held : ∀ g, p.player.gate = some g → p.player.advanceEnabled = false ∧ "" ∉ g.destinations
  moving : p.player.progress ≠ .stalled

variable {timeline : Timeline} {bound : Nat}

theorem Orderly.congr {p q : Playback} (h : Orderly timeline p)
    (same : q.player.timeline = p.player.timeline)
    (enabled : q.player.advanceEnabled = p.player.advanceEnabled)
    (gate : q.player.gate.map Gate.destinations = p.player.gate.map Gate.destinations)
    (moving : q.player.progress ≠ .stalled) : Orderly timeline q := by
  refine ⟨same.trans h.plays, ?_, moving⟩
  intro g gated
  rw [gated, Option.map_some, eq_comm, Option.map_eq_some_iff] at gate
  obtain ⟨g', gated', destinations⟩ := gate
  rw [enabled, ← destinations]
  exact h.held g' gated'

/-- Where pointer downs are taken there is no gate. -/
theorem Orderly.ungated {p : Playback} (h : Orderly timeline p)
    (enabled : p.player.advanceEnabled = true) : p.player.gate = none := by
  cases gated : p.player.gate with
  | none => rfl
  | some g =>
    have disabled := (h.held g gated).1
    rw [enabled] at disabled
    cases disabled

theorem Orderly.ne_fallback {p : Playback} (h : Orderly timeline p) {g : Gate}
    (gated : p.player.gate = some g) (id : Nat) (verdict : Option Gate.Verdict) :
    (g.press id).1 ≠ .fallback verdict := by
  intro pressed
  exact (h.held g gated).2 (Gate.unnamed_of_fallback pressed)

theorem orderly_blocked {p q : Playback} {e : Event} {g : Progress}
    (acceptable : Lint.Acceptable bound e) (plays : p.player.timeline = some timeline)
    (ungated : p.player.gate = none) (blocked : Blocked p q e g) :
    Orderly timeline (q.settle g).2 := by
  cases blocked with
  | stalled player surface => exact (acceptable.ne_unknown rfl).elim
  | typing text hidden player surface | waiting player surface
  | restart player surface | scene player surface =>
    exact ⟨by simp [player, plays], by simp [player, ungated], by simp⟩
  | gate opens player surface =>
    refine ⟨by simp [player, plays], ?_, by simp⟩
    intro g gated
    obtain rfl := Option.some.inj (gated.symm.trans (congrArg Player.gate player))
    exact ⟨by simp [player], acceptable.named opens⟩

/-- A press that does not lead nowhere leaves it as it was whether pointer downs are taken, and says
nothing about it to the surface. -/
theorem press_enabled {p : Playback} (h : Orderly timeline p) (id : Nat) :
    (p.press id).2.player.advanceEnabled = p.player.advanceEnabled ∧
      ∃ commands, (p.press id).2.surface = p.surface.performAll commands ∧
        ∀ enabled, .setAdvanceEnabled enabled ∉ commands := by
  have step := press_step p id
  generalize (p.press id).1 = g at step
  generalize (p.press id).2 = q at step ⊢
  cases step with
  | finished navigation same | ungated navigation gate same =>
    exact same ▸ ⟨rfl, [], rfl, by simp⟩
  | refused navigation gated pressed player surface
  | resolved navigation gated pressed player surface =>
    exact ⟨by rw [player], [], surface, by simp⟩
  | toggled navigation gated pressed player surface =>
    exact ⟨by rw [player], [_], surface, by simp⟩
  | fellBack navigation gated pressed player surface =>
    exact (h.ne_fallback gated _ _ pressed).elim

section Acceptable

variable (acceptable : ∀ e ∈ timeline, Lint.Acceptable bound e)
include acceptable

theorem orderly_ran {p m : Playback} {g : Progress} (plays : p.player.timeline = some timeline)
    (ungated : p.player.gate = none) (ran : Ran p timeline g m) :
    Orderly timeline (m.settle g).2 := by
  cases ran with
  | ended left passed player surface =>
    exact ⟨by simp [player, passed.player, plays], by simp [player, passed.player, ungated],
      by simp⟩
  | @blocked q _ events rest e _ left passed blocked =>
    have mem : e ∈ timeline := List.mem_of_mem_drop (by rw [left]; simp)
    exact orderly_blocked (acceptable e mem) (by simp [passed.player, plays])
      (by simp [passed.player, ungated]) blocked

theorem orderly_startAt (p : Playback) (first : Nat) :
    Orderly timeline (p.startAt timeline first).2 := by
  obtain ⟨m, ready, start⟩ := startAt_ready p timeline first
  have ran := run_ran m
  rw [ready.timeline, Option.getD_some] at ran
  rw [start]
  exact orderly_ran acceptable ready.timeline ready.gate ran

theorem orderly_step {p q : Playback} {c : Call} {g : Progress} (h : Orderly timeline p)
    (step : Step p q c g) : Orderly timeline q := by
  cases step with
  | finished navigation same => exact same ▸ h
  | ungated navigation gate same => exact same ▸ h
  | unshown navigation reveal same => exact same ▸ h
  | ignored navigation enabled player surface =>
    refine h.congr ?_ ?_ ?_ ?_ <;> simp [player, h.moving]
  | completed navigation enabled shown player surface
  | shown navigation shown ticked complete player surface =>
    refine h.congr ?_ ?_ ?_ ?_ <;> simp [player]
  | showing navigation shown ticked incomplete player surface =>
    refine h.congr ?_ ?_ ?_ ?_ <;> simp [player, h.moving]
  | refused navigation gated pressed player surface
  | toggled navigation gated pressed player surface =>
    refine h.congr ?_ ?_ ?_ ?_ <;> simp [player, gated, h.moving]
  | resolved navigation gated pressed player surface =>
    refine h.congr ?_ ?_ ?_ ?_ <;> simp [player, gated]
  | fellBack navigation gated pressed player surface =>
    exact (h.ne_fallback gated _ _ pressed).elim
  | @ran m g navigation enabled reveal run player surface =>
    have ran := ran_of_run run
    rw [h.plays, Option.getD_some] at ran
    have settled := orderly_ran acceptable h.plays (h.ungated enabled) ran
    refine settled.congr ?_ ?_ ?_ ?_
    · simp [player]
    · simp [player]
    · simp [player]
    · simpa [player] using settled.moving

theorem orderly_calls (p : Playback) (first : Nat) {cs : List Call} {s : Progress × Playback}
    (h : calls (p.startAt timeline first) cs = .ok s) : Orderly timeline s.2 :=
  calls_invariant (fun r => Orderly timeline r.2) (orderly_step acceptable) h
    (orderly_startAt acceptable p first)

/-- The stored progress and the last answer are never that of a player that is held up. -/
theorem answer_ne_stalled (p : Playback) (first : Nat) {cs : List Call} {s : Progress × Playback}
    (h : calls (p.startAt timeline first) cs = .ok s) : s.1 ≠ .stalled := by
  have begun : (p.startAt timeline first).1 ≠ .stalled := by
    rw [(candid_startAt p timeline first).answer]
    exact (orderly_startAt acceptable p first).moving
  have kept : Orderly timeline s.2 ∧ s.1 ≠ .stalled := by
    refine calls_invariant (fun r => Orderly timeline r.2 ∧ r.1 ≠ .stalled) ?_ h
      ⟨orderly_startAt acceptable p first, begun⟩
    rintro g g' p q c ⟨orderly, -⟩ step
    have next := orderly_step acceptable orderly step
    refine ⟨next, ?_⟩
    obtain stored | rfl | rfl := step.answer
    · rw [stored]
      exact next.moving
    · simp
    · simp
  exact kept.2

/-- No press interrupts a line, so that the progress always tells when one is shown. -/
theorem candid_of_orderly (p : Playback) (first : Nat) {cs : List Call} {s : Progress × Playback}
    (h : calls (p.startAt timeline first) cs = .ok s) (navigation : s.2.player.navigation = none) :
    Candid s := by
  refine candid_calls (fun _ => candid_startAt p timeline first) ?_ h navigation
  rintro before c after m - hm ⟨id, g, verdict, rfl, -, -, gated, pressed⟩
  exact (orderly_calls acceptable p first hm).ne_fallback gated id verdict pressed

end Acceptable

/-- Whatever is asked of a player of a timeline about which nothing worse than a hint is told: it is
never stalled, no press leads nowhere or makes the player take pointer downs again, and until it is
left the progress tells whether a line is shown and whether there is a gate. -/
theorem orderly_of_quality_clean {config : Lint.Config} {r : Registry}
    (clean : Lint.QualityClean config r) {name : String} {timeline : Timeline}
    (found : r.find? name = some timeline) (p : Playback) (first : Nat) {cs : List Call}
    {s : Progress × Playback} (h : calls (p.startAt timeline first) cs = .ok s) :
    s.1 ≠ .stalled ∧ s.2.player.progress ≠ .stalled ∧
      (∀ g id verdict, s.2.player.gate = some g → (g.press id).1 ≠ .fallback verdict) ∧
      (∀ id, (s.2.press id).2.player.advanceEnabled = s.2.player.advanceEnabled ∧
        ∃ commands, (s.2.press id).2.surface = s.2.surface.performAll commands ∧
          ∀ enabled, .setAdvanceEnabled enabled ∉ commands) ∧
      (s.2.player.navigation = none →
        (s.2.player.reveal.isSome = true ↔ s.2.player.progress = .typing) ∧
        (s.2.player.gate.isSome = true ↔ s.2.player.progress = .waitChoice)) := by
  have acceptable : ∀ e ∈ timeline, Lint.Acceptable config.quality.maxTextLength e :=
    fun e mem => clean.acceptable found mem
  have orderly := orderly_calls acceptable p first h
  have controlled := controlled_calls (show p.opened (.startAt timeline first) = .ok _ from rfl) h
  refine ⟨answer_ne_stalled acceptable p first h, orderly.moving, ?_, press_enabled orderly, ?_⟩
  · intro g id verdict gated
    exact orderly.ne_fallback gated id verdict
  · intro navigation
    refine ⟨(candid_of_orderly acceptable p first h navigation).typing_iff, ?_⟩
    rw [controlled.choosing_iff navigation, Option.isSome_iff_exists]
    constructor
    · rintro ⟨g, gated⟩
      exact (orderly.held g gated).1
    · intro disabled
      have choosing := (controlled.choosing_iff navigation).2 disabled
      exact Option.isSome_iff_exists.1 (controlled.choosing navigation choosing).1

/-- A line, a gate of which at least one option has to be selected, and what it leads to. -/
def quizAndEnd : Registry :=
  (Registry.insert {} "start" [.dialog { text := "Hi" }, .multiChoice {
    choices := [⟨"A", true, false, none⟩, ⟨"B", false, false, none⟩]
    correctKey := "end"
    incorrectKey := "start"
    minSelect := 1
    maxSelect := some 1 }]).insert "end" []

/-- The line was completed, and of the gate behind it one option was selected and another one was
refused. -/
theorem quiz_orderly :
    ∃ timeline s, quizAndEnd.find? "start" = some timeline ∧
      calls (fresh.startAt timeline 0) [.advance, .advance, .press 2, .press 0, .press 1, .advance] =
        .ok s ∧
      s.2.player.gate.isSome = true ∧ s.2.player.progress = .waitChoice ∧
      ∀ g, s.2.player.gate = some g → ∀ id verdict, (g.press id).1 ≠ .fallback verdict := by
  have clean : Lint.QualityClean { flow := { enabled := false } } quizAndEnd :=
    ⟨rfl, by decide⟩
  obtain ⟨timeline, found⟩ := Option.isSome_iff_exists.1
    (show (quizAndEnd.find? "start").isSome = true from rfl)
  have made : ∃ s, calls (fresh.startAt timeline 0)
      [.advance, .advance, .press 2, .press 0, .press 1, .advance] = .ok s ∧
        s.2.player.navigation = none ∧ s.2.player.progress = .waitChoice := by
    cases found
    exact ⟨_, rfl, rfl, rfl⟩
  obtain ⟨s, hs, navigation, progress⟩ := made
  obtain ⟨-, -, named, -, told⟩ := orderly_of_quality_clean clean found fresh 0 hs
  exact ⟨timeline, s, found, hs, (told navigation).2.2 progress, progress,
    fun g gated id verdict => named g id verdict gated⟩

end VisualNovel.Playback
