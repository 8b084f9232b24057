import VisualNovel.Lint.References
import VisualNovel.Proofs.Playback.Calls

namespace VisualNovel

namespace Gate

def destinations : Gate → List String
  | .single g => g.choices.map Choice.key
  | .multi g => [g.correctKey, g.incorrectKey]

theorem destinations_of_opens {e : Event} {g : Gate} (h : e.Opens g) :
    g.destinations = e.destinations := by
  cases h with
  | choice => rfl
  | multiChoice => rfl

theorem Multi.toggle_keys (g : Multi) (id : Nat) :
    (g.toggle id).2.correctKey = g.correctKey ∧ (g.toggle id).2.incorrectKey = g.incorrectKey := by
  unfold toggle
  repeat' split
  all_goals exact ⟨rfl, rfl⟩

@[simp] theorem destinations_press (g : Gate) (id : Nat) :
    (g.press id).2.destinations = g.destinations := by
  cases g with
  | single g => rfl
  | multi g =>
    simp only [press, Multi.press]
    split
    · rfl
    · simp [destinations, Multi.toggle_keys]

theorem leadingTo_eq_resolved {destination key : String} {verdict verdict' : Option Verdict}
    (h : Response.leadingTo destination verdict = .resolved key verdict') :
    destination = key ∧ key ≠ "" := by
  unfold Response.leadingTo at h
  split at h
  · cases h
  · next named =>
    cases h
    exact ⟨rfl, by simpa using named⟩

/-- A gate leads to one of its destinations, and never to the empty one. -/
theorem mem_destinations_of_resolved {g : Gate} {id : Nat} {key : String}
    {verdict : Option Verdict} (h : (g.press id).1 = .resolved key verdict) :
    key ∈ g.destinations ∧ key ≠ "" := by
  cases g with
  | single g =>
    simp only [press, Single.press] at h
    split at h
    · next choice found =>
      obtain ⟨rfl, named⟩ := leadingTo_eq_resolved h
      exact ⟨List.mem_map_of_mem (List.mem_of_getElem? found), named⟩
    · cases h
  | multi g =>
    simp only [press, Multi.press] at h
    split at h
    · simp only [Multi.confirm] at h
      split at h
      · cases h
      · obtain ⟨rfl, named⟩ := leadingTo_eq_resolved h
        refine ⟨?_, named⟩
        split <;> simp [destinations]
    · unfold Multi.toggle at h
      repeat' split at h
      all_goals cases h

end Gate

namespace Playback

/-- An event of a timeline between two places. -/
def Met (timeline : Timeline) (first last : Nat) (e : Event) : Prop :=
  ∃ j, first ≤ j ∧ j < last ∧ timeline[j]? = some e

theorem Met.mono {timeline : Timeline} {first last later : Nat} {e : Event}
    (h : Met timeline first last e) (le : last ≤ later) : Met timeline first later e := by
  obtain ⟨j, first_le, lt, found⟩ := h
  exact ⟨j, first_le, Nat.lt_of_lt_of_le lt le, found⟩

theorem Met.mem {timeline : Timeline} {first last : Nat} {e : Event}
    (h : Met timeline first last e) : e ∈ timeline := by
  obtain ⟨j, -, -, found⟩ := h
  exact List.mem_of_getElem? found

/-- What a player that began a timeline at a place may ask, and where it may lead. -/
structure Sourced (timeline : Timeline) (first : Nat) (p : Playback) : Prop where
  plays : p.player.timeline = some timeline
  first_le : first ≤ p.player.index
  gate : ∀ g, p.player.gate = some g →
    ∃ e, Met timeline first p.player.index e ∧ g.destinations = e.destinations
  /-- Only a transition leads to a timeline without a name. -/
  restart : ∀ key, p.player.navigation = some (.restart key) →
    ∃ e, Met timeline first p.player.index e ∧ key ∈ e.destinations ∧
      (key = "" → e = .timelineTransition key)
  scene : ∀ name data, p.player.navigation = some (.scene name data) →
    first < p.player.index ∧
      timeline[p.player.index - 1]? = some (.sceneTransition ⟨name, data⟩)

variable {timeline : Timeline} {first : Nat}

theorem Sourced.congr {p q : Playback} (h : Sourced timeline first p)
    (same : q.player.timeline = p.player.timeline) (index : q.player.index = p.player.index)
    (gate : q.player.gate.map Gate.destinations = p.player.gate.map Gate.destinations)
    (navigation : q.player.navigation = p.player.navigation) : Sourced timeline first q := by
  constructor
  · rw [same, h.plays]
  · rw [index]
    exact h.first_le
  · intro g gated
    rw [gated, Option.map_some, eq_comm, Option.map_eq_some_iff] at gate
    obtain ⟨g', gated', destinations⟩ := gate
    rw [index, ← destinations]
    exact h.gate g' gated'
  · rw [navigation, index]
    exact h.restart
  · rw [navigation, index]
    exact h.scene

/-- The player right behind an event that it has not carried out yet. -/
theorem sourced_blocked {p q : Playback} {e : Event} {g : Progress} {j : Nat}
    (h : Sourced timeline first p) (navigation : p.player.navigation = none)
    (index : p.player.index = j + 1) (first_le : first ≤ j) (found : timeline[j]? = some e)
    (blocked : Blocked p q e g) : Sourced timeline first (q.settle g).2 := by
  have met : Met timeline first (j + 1) e := ⟨j, first_le, Nat.lt_succ_self j, found⟩
  cases blocked with
  | typing text hidden player surface =>
    refine h.congr ?_ ?_ ?_ ?_ <;> simp [player]
  | waiting player surface =>
    refine h.congr ?_ ?_ ?_ ?_ <;> simp [player]
  | stalled player surface =>
    refine h.congr ?_ ?_ ?_ ?_ <;> simp [player]
  | @restart key player surface =>
    constructor
    · simpa [player] using h.plays
    · simpa [player] using h.first_le
    · simpa [player] using h.gate
    · intro k reported
      have same : key = k := by simpa [player] using reported
      subst same
      exact ⟨.timelineTransition key, by simpa [player, index] using met,
        List.mem_singleton.2 rfl, fun _ => rfl⟩
    · simp [player]
  | @scene jump player surface =>
    constructor
    · simpa [player] using h.plays
    · simpa [player] using h.first_le
    · simpa [player] using h.gate
    · simp [player]
    · intro name data reported
      obtain ⟨rfl, rfl⟩ : jump.key = name ∧ jump.data = data := by simpa [player] using reported
      simp only [settle_player, player, index]
      exact ⟨Nat.lt_succ_of_le first_le, found⟩
  | @gate _ gate random opens player surface =>
    constructor
    · simpa [player] using h.plays
    · simpa [player] using h.first_le
    · intro g' gated
      have same : gate = g' := by simpa [player] using gated
      subst same
      exact ⟨e, by simpa [player, index] using met, Gate.destinations_of_opens opens⟩
    · simp [player, navigation]
    · simp [player, navigation]

theorem Sourced.moved {p q : Playback} {n : Nat} (h : Sourced timeline first p)
    (navigation : p.player.navigation = none)
    (player : q.player = { p.player with index := p.player.index + n }) :
    Sourced timeline first q := by
  constructor
  · simpa [player] using h.plays
  · simpa [player] using Nat.le_add_right_of_le h.first_le
  · intro g gated
    obtain ⟨e, met, destinations⟩ := h.gate g (by simpa [player] using gated)
    exact ⟨e, met.mono (by simp [player]), destinations⟩
  · simp [player, navigation]
  · simp [player, navigation]

theorem sourced_ran {p m : Playback} {g : Progress} (h : Sourced timeline first p)
    (navigation : p.player.navigation = none) (ran : Ran p (p.player.timeline.getD []) g m) :
    Sourced timeline first (m.settle g).2 := by
  cases ran with
  | @ended q _ events left passed player surface =>
    have moved : Sourced timeline first q := h.moved navigation passed.player
    refine moved.congr ?_ ?_ ?_ ?_ <;> simp [player]
  | @blocked q _ events rest e g left passed blocked =>
    have moved : Sourced timeline first (q.passing e) :=
      h.moved (n := events.length + 1) navigation (by simp [passed.player, Nat.add_assoc])
    rw [h.plays, Option.getD_some] at left
    -- the event at which the player stops is the first that it has not passed
    have found : timeline[p.player.index + events.length]? = some e := by
      rw [← List.getElem?_drop, left]
      simp
    refine sourced_blocked moved ?_ ?_ (Nat.le_add_right_of_le h.first_le) found blocked
    · simp [passed.player, navigation]
    · simp [passed.player]

theorem sourced_startAt (p : Playback) (timeline : Timeline) (index : Nat) :
    Sourced timeline index (p.startAt timeline index).2 := by
  obtain ⟨m, ready, start⟩ := startAt_ready p timeline index
  have begun : Sourced timeline index m := by
    constructor
    · exact ready.timeline
    · exact Nat.le_of_eq ready.index.symm
    · simp [ready.gate]
    · simp [ready.navigation]
    · simp [ready.navigation]
  rw [start]
  exact sourced_ran begun ready.navigation (run_ran m)

theorem sourced_step {p q : Playback} {c : Call} {g : Progress} (h : Sourced timeline first p)
    (step : Step p q c g) : Sourced timeline first q := by
  cases step with
  | finished navigation same => exact same ▸ h
  | ungated navigation gate same => exact same ▸ h
  | unshown navigation reveal same => exact same ▸ h
  | ignored navigation enabled player surface =>
    refine h.congr ?_ ?_ ?_ ?_ <;> simp [player]
  | completed navigation enabled shown player surface =>
    refine h.congr ?_ ?_ ?_ ?_ <;> simp [player]
  | @ran m g navigation enabled reveal run player surface =>
    refine (sourced_ran h navigation (ran_of_run run)).congr ?_ ?_ ?_ ?_ <;> simp [player]
  | refused navigation gated pressed player surface =>
    refine h.congr ?_ ?_ ?_ ?_ <;> simp [player, gated]
  | toggled navigation gated pressed player surface =>
    refine h.congr ?_ ?_ ?_ ?_ <;> simp [player, gated]
  | fellBack navigation gated pressed player surface =>
    refine h.congr ?_ ?_ ?_ ?_ <;> simp [player, gated]
  | @resolved id gate key verdict navigation gated pressed player surface =>
    obtain ⟨e, met, destinations⟩ := h.gate gate gated
    obtain ⟨mem, named⟩ := Gate.mem_destinations_of_resolved pressed
    constructor
    · simpa [player] using h.plays
    · simpa [player] using h.first_le
    · simpa [player] using ⟨e, met, destinations⟩
    · intro k reported
      have same : key = k := by simpa [player] using reported
      subst same
      exact ⟨e, by simpa [player] using met, destinations ▸ mem, fun empty => (named empty).elim⟩
    · simp [player]
  | showing navigation shown ticked incomplete player surface =>
    refine h.congr ?_ ?_ ?_ ?_ <;> simp [player]
  | shown navigation shown ticked complete player surface =>
    refine h.congr ?_ ?_ ?_ ?_ <;> simp [player]

end Playback

end VisualNovel
