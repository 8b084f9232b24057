import VisualNovel.Proofs.Playback.Calls

namespace VisualNovel.Playback

/-- Both the stored progress and the last answer tell that a line is being shown when one is. -/
structure Candid (r : Progress × Playback) : Prop where
  typing_iff : r.2.player.reveal.isSome = true ↔ r.2.player.progress = .typing
  answer : r.1 = r.2.player.progress

/-- A press that leads nowhere while a line is being shown. -/
def Interrupts (p : Playback) (c : Call) : Prop :=
  ∃ id gate verdict, c = .press id ∧ p.player.navigation = none ∧ p.player.reveal.isSome = true ∧
    p.player.gate = some gate ∧ (gate.press id).1 = .fallback verdict

theorem candid_blocked {p q : Playback} {e : Event} {g : Progress}
    (reveal : p.player.reveal = none) (h : Blocked p q e g) : Candid (q.settle g) := by
  cases h with
  | typing text hidden player surface => exact ⟨by simp [player], rfl⟩
  | waiting player surface => exact ⟨by simp [player, reveal], rfl⟩
  | stalled player surface => exact ⟨by simp [player, reveal], rfl⟩
  | restart player surface => exact ⟨by simp [player, reveal], rfl⟩
  | scene player surface => exact ⟨by simp [player, reveal], rfl⟩
  | gate opens player surface => exact ⟨by simp [player, reveal], rfl⟩

theorem candid_ran {p m : Playback} {timeline : Timeline} {g : Progress}
    (reveal : p.player.reveal = none) (h : Ran p timeline g m) : Candid (m.settle g) := by
  cases h with
  | ended left passed player surface => exact ⟨by simp [player, passed.player, reveal], rfl⟩
  | blocked left passed blocked =>
    exact candid_blocked (by simpa [passed.player] using reveal) blocked

theorem candid_startAt (p : Playback) (timeline : Timeline) (index : Nat) :
    Candid (p.startAt timeline index) := by
  obtain ⟨m, ready, start⟩ := startAt_ready p timeline index
  rw [start]
  exact candid_ran ready.reveal (run_ran m)

/-- A step that answers with the stored progress, and changes neither it nor the line. -/
theorem candid_kept {g : Progress} {p q : Playback} (h : Candid (g, p))
    (reveal : q.player.reveal = p.player.reveal)
    (progress : q.player.progress = p.player.progress) :
    Candid (p.player.progress, q) :=
  ⟨by simpa only [reveal, progress] using h.typing_iff, progress.symm⟩

theorem candid_step {g h : Progress} {p q : Playback} {c : Call}
    (hp : p.player.navigation = none → Candid (g, p)) (quiet : ¬ p.Interrupts c)
    (step : Step p q c h) (hq : q.player.navigation = none) : Candid (h, q) := by
  cases step with
  | finished navigation same =>
    rw [same, navigation] at hq
    cases hq
  | ungated navigation gate same =>
    exact candid_kept (hp navigation) (by rw [same]) (by rw [same])
  | unshown navigation reveal same =>
    exact candid_kept (hp navigation) (by rw [same]) (by rw [same])
  | ignored navigation enabled player surface =>
    exact candid_kept (hp navigation) (by rw [player]) (by rw [player])
  | refused navigation gated pressed player surface =>
    exact candid_kept (hp navigation) (by rw [player]) (by rw [player])
  | toggled navigation gated pressed player surface =>
    exact candid_kept (hp navigation) (by rw [player]) (by rw [player])
  | completed navigation enabled shown player surface => exact ⟨by simp [player], by simp [player]⟩
  | @ran m _ navigation enabled reveal run player surface =>
    have settled : Candid (m.settle h) := candid_ran reveal (ran_of_run run)
    exact ⟨by simpa [player] using settled.typing_iff, by simp [player]⟩
  | resolved navigation gated pressed player surface => simp [player] at hq
  | @fellBack id gate verdict navigation gated pressed player surface =>
    have reveal : p.player.reveal = none := by
      cases shown : p.player.reveal with
      | none => rfl
      | some reveal =>
        exact (quiet ⟨id, gate, verdict, rfl, navigation, by simp [shown], gated, pressed⟩).elim
    exact ⟨by simp [player, reveal], by simp [player]⟩
  | showing navigation shown ticked incomplete player surface =>
    have typing : p.player.progress = .typing := (hp navigation).typing_iff.1 (by simp [shown])
    exact ⟨by simp [player, typing], by simp [player, typing]⟩
  | shown navigation shown ticked complete player surface =>
    exact ⟨by simp [player], by simp [player]⟩

theorem candid_calls {r s : Progress × Playback} {cs : List Call}
    (hr : r.2.player.navigation = none → Candid r)
    (quiet : ∀ before c after m, cs = before ++ c :: after → calls r before = .ok m →
      ¬ m.2.Interrupts c)
    (hc : calls r cs = .ok s) (navigation : s.2.player.navigation = none) : Candid s := by
  induction cs generalizing r with
  | nil =>
    cases hc
    exact hr navigation
  | cons c rest ih =>
    obtain ⟨m, hm, hs⟩ := calls_cons.1 hc
    have next : m.2.player.navigation = none → Candid m :=
      candid_step hr (quiet [] c rest r rfl rfl) (call_step hm)
    refine ih next ?_ hs
    intro before d after n split hn
    exact quiet (c :: before) d after n (by rw [split]; rfl) (calls_cons.2 ⟨m, hm, hn⟩)

/-- After a press that leads nowhere the line is still shown, but the progress does not tell. -/
theorem not_candid_of_interrupts {p : Playback} {c : Call} (h : p.Interrupts c) :
    ∃ n, p.call c = .ok n ∧ n.2.player.navigation = none ∧ ¬ Candid n := by
  obtain ⟨id, gate, verdict, rfl, navigation, shown, gated, pressed⟩ := h
  have after : (p.press id).2.player = { p.player with
      gate := some (gate.press id).2
      advanceEnabled := true
      progress := .waitInput } := by
    rw [press_gated id navigation gated, pressed]
    simp [respond]
  refine ⟨p.press id, rfl, by simpa [after] using navigation, ?_⟩
  intro candid
  have typing := candid.typing_iff.1 (by simpa [after] using shown)
  simp [after] at typing

/-- A player is candid all through a run exactly when no press of the run leads nowhere while a line
is being shown. -/
theorem candid_iff_no_interruption {p : Playback} {o : Opening} {r : Progress × Playback}
    (ho : p.opened o = .ok r) (cs : List Call) :
    (∀ before after m, cs = before ++ after → calls r before = .ok m →
        m.2.player.navigation = none → Candid m) ↔
      ∀ before c after m, cs = before ++ c :: after → calls r before = .ok m →
        ¬ m.2.Interrupts c := by
  constructor
  · intro candid before c after m split hm interrupts
    obtain ⟨n, hn, navigation, not_candid⟩ := not_candid_of_interrupts interrupts
    have reached : calls r (before ++ [c]) = .ok n :=
      calls_append.2 ⟨m, hm, calls_cons.2 ⟨n, hn, rfl⟩⟩
    exact not_candid (candid (before ++ [c]) after n (by simp [split]) reached navigation)
  · intro quiet before after m split hm navigation
    obtain ⟨q, timeline, index, rfl⟩ := opened_startAt ho
    refine candid_calls (fun _ => candid_startAt q timeline index) ?_ hm navigation
    intro early c late n split' hn
    exact quiet early c (late ++ after) n (by rw [split, split']; simp) hn

/-- The gate of the first event leads nowhere twice, the second time while the line behind it is
being shown. -/
theorem progress_hides_line :
    ∃ s, calls (fresh.start [.choice [⟨"Stay", ""⟩], .dialog { text := "Hi" }])
        [.press 0, .advance, .press 0] = .ok s ∧
      s.2.player.navigation = none ∧ s.2.player.reveal.isSome = true ∧
      s.2.player.progress = .waitInput ∧
      (s.2.tick .zero).toOption.map Prod.fst = some .typing :=
  ⟨_, rfl, rfl, rfl, rfl, rfl⟩

theorem candid_until_interruption :
    ¬ ∀ before after m, [.press 0, .advance, .press 0] = before ++ after →
      calls (fresh.start [.choice [⟨"Stay", ""⟩], .dialog { text := "Hi" }]) before = .ok m →
        m.2.player.navigation = none → Candid m := by
  intro candid
  have begun : fresh.opened (.start [.choice [⟨"Stay", ""⟩], .dialog { text := "Hi" }]) =
      .ok (fresh.start [.choice [⟨"Stay", ""⟩], .dialog { text := "Hi" }]) := rfl
  exact (candid_iff_no_interruption begun _).1 candid [.press 0, .advance] (.press 0) [] _ rfl rfl
    ⟨0, _, none, rfl, rfl, rfl, rfl, rfl⟩

end VisualNovel.Playback
