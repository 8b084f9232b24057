import VisualNovel.Proofs.Playback.Rules

namespace VisualNovel.Playback

/-- The ways to begin a timeline. -/
inductive Opening where
  | start (timeline : Timeline)
  | startAt (timeline : Timeline) (index : Nat)
  | startKey (registry : Registry) (key : String)
  | resume (registry : Registry) (snapshot : Snapshot)

def opened (p : Playback) : Opening → Except LoadError (Progress × Playback)
  | .start timeline => .ok (p.start timeline)
  | .startAt timeline index => .ok (p.startAt timeline index)
  | .startKey registry key => p.startKey registry key
  | .resume registry snapshot => p.resume registry snapshot

/-- Make some calls, and keep the answer to the last one. Before the first call it is the answer to
what was done earlier. -/
def calls (r : Progress × Playback) (cs : List Call) : Except ClockOverflow (Progress × Playback) :=
  cs.foldlM (fun r c => r.2.call c) r

/-- A player with the default settings that has not been begun. -/
def fresh : Playback := .ofConfig .default (.ofCanvas defaultCanvas)

/-- A player that is about to play a timeline from a place. -/
structure Ready (p : Playback) (timeline : Timeline) (index : Nat) : Prop where
  timeline : p.player.timeline = some timeline
  index : p.player.index = index
  reveal : p.player.reveal = none
  gate : p.player.gate = none
  navigation : p.player.navigation = none
  enabled : p.player.advanceEnabled = true
  stage : p.surface.stage.advanceEnabled = true

/-- The player just before it plays. -/
def readied (p : Playback) (timeline : Timeline) (index : Nat) : Playback :=
  ({ p with
    player.timeline := some timeline
    player.index := index
    player.reveal := none
    player.gate := none
    player.navigation := none }.setAdvanceEnabled true).note
      (.started p.player.timelineKey index timeline.length)

theorem readied_ready (p : Playback) (timeline : Timeline) (index : Nat) :
    (p.readied timeline index).Ready timeline index := by
  constructor <;> simp [readied, Stage.apply]

@[simp] theorem readied_config (p : Playback) (timeline : Timeline) (index : Nat) :
    (p.readied timeline index).player.config = p.player.config := by simp [readied]

@[simp] theorem readied_timelineKey (p : Playback) (timeline : Timeline) (index : Nat) :
    (p.readied timeline index).player.timelineKey = p.player.timelineKey := by simp [readied]

@[simp] theorem readied_canvas (p : Playback) (timeline : Timeline) (index : Nat) :
    (p.readied timeline index).canvas = p.canvas := by simp [readied, canvas]

theorem startAt_ready (p : Playback) (timeline : Timeline) (index : Nat) :
    ∃ m : Playback, m.Ready timeline index ∧ p.startAt timeline index = m.run.2.settle m.run.1 :=
  ⟨_, p.readied_ready timeline index, rfl⟩

theorem startNamed_ok {p : Playback} {registry : Registry} {key : String} {index : Nat}
    {r : Progress × Playback} (h : p.startNamed registry key index = .ok r) :
    ∃ timeline, registry.find? key = some timeline ∧
      r = { p with player.timelineKey := some key }.startAt timeline index := by
  unfold startNamed Registry.get at h
  cases found : registry.find? key with
  | none =>
    rw [found] at h
    cases h
  | some timeline =>
    rw [found] at h
    exact ⟨timeline, rfl, (Except.ok.inj h).symm⟩

theorem startNamed_error {p : Playback} {registry : Registry} {key : String} {index : Nat}
    {e : LoadError} (h : p.startNamed registry key index = .error e) :
    e = .unknownTimeline key ∧ registry.contains key = false := by
  unfold startNamed Registry.get at h
  cases found : registry.find? key with
  | none =>
    rw [found] at h
    refine ⟨(Except.error.inj h).symm, ?_⟩
    exact Option.isSome_eq_false_iff.2 (Option.isNone_iff_eq_none.2 found)
  | some timeline =>
    rw [found] at h
    cases h

/-- Before a timeline is begun the player takes its name, if it has one, and nothing else. -/
theorem opened_named {p : Playback} {o : Opening} {r : Progress × Playback}
    (h : p.opened o = .ok r) :
    ∃ name timeline index,
      r = startAt { p with player.timelineKey := name } timeline index := by
  cases o with
  | start timeline => exact ⟨_, timeline, 0, (Except.ok.inj h).symm⟩
  | startAt timeline index => exact ⟨_, timeline, index, (Except.ok.inj h).symm⟩
  | startKey registry key =>
    obtain ⟨timeline, -, rfl⟩ := startNamed_ok h
    exact ⟨_, timeline, 0, rfl⟩
  | resume registry snapshot =>
    simp only [opened, resume] at h
    split at h
    · cases h
    · obtain ⟨timeline, -, rfl⟩ := startNamed_ok h
      exact ⟨_, timeline, _, rfl⟩

theorem opened_startAt {p : Playback} {o : Opening} {r : Progress × Playback}
    (h : p.opened o = .ok r) : ∃ q timeline index, r = startAt q timeline index := by
  obtain ⟨name, timeline, index, rfl⟩ := opened_named h
  exact ⟨_, timeline, index, rfl⟩

theorem calls_cons {r s : Progress × Playback} {c : Call} {cs : List Call} :
    calls r (c :: cs) = .ok s ↔ ∃ m, r.2.call c = .ok m ∧ calls m cs = .ok s := by
  simp only [calls, List.foldlM_cons]
  cases r.2.call c with
  | error e => simp [bind, Except.bind]
  | ok m => simp [bind, Except.bind]

theorem calls_append {r s : Progress × Playback} {before after : List Call} :
    calls r (before ++ after) = .ok s ↔ ∃ m, calls r before = .ok m ∧ calls m after = .ok s := by
  simp only [calls, List.foldlM_append]
  cases before.foldlM (fun r c => r.2.call c) r with
  | error e => simp [bind, Except.bind]
  | ok m => simp [bind, Except.bind]

theorem calls_invariant (Inv : Progress × Playback → Prop)
    (step : ∀ {g h : Progress} {p q : Playback} {c : Call},
      Inv (g, p) → Step p q c h → Inv (h, q))
    {r s : Progress × Playback} {cs : List Call} (h : calls r cs = .ok s) (hr : Inv r) : Inv s := by
  induction cs generalizing r with
  | nil => exact Except.ok.inj h ▸ hr
  | cons c rest ih =>
    obtain ⟨m, hm, hs⟩ := calls_cons.1 h
    exact ih hs (step hr (call_step hm))

theorem call_finished {p : Playback} {n : Navigation} (h : p.player.navigation = some n)
    (c : Call) : p.call c = .ok (.finished, p) := by
  cases c <;> simp [call, advance, press, tick, h]

/-- A player that has reported a navigation stays as it is. -/
theorem calls_finished {r : Progress × Playback} {n : Navigation}
    (h : r.2.player.navigation = some n) (cs : List Call) (c : Call) :
    calls r (cs ++ [c]) = .ok (.finished, r.2) := by
  induction cs generalizing r with
  | nil => exact calls_cons.2 ⟨_, call_finished h c, rfl⟩
  | cons d rest ih => exact calls_cons.2 ⟨_, call_finished h d, ih h⟩

/-- The players have the same settings and the same name of the timeline. -/
def SetUpAs (p q : Playback) : Prop :=
  q.player.config = p.player.config ∧ q.player.timelineKey = p.player.timelineKey

theorem blocked_setUp {p q : Playback} {e : Event} {g : Progress} (h : Blocked p q e g) :
    SetUpAs p q := by
  cases h with
  | typing text hidden player surface | waiting player surface | stalled player surface
  | restart player surface | scene player surface | gate opens player surface =>
    rw [SetUpAs, player]
    exact ⟨rfl, rfl⟩

theorem ran_setUp {p m : Playback} {timeline : Timeline} {g : Progress}
    (h : Ran p timeline g m) : SetUpAs p m := by
  cases h with
  | ended left passed player surface =>
    rw [SetUpAs, player, passed.player]
    exact ⟨rfl, rfl⟩
  | blocked left passed blocked =>
    have setUp := blocked_setUp blocked
    rwa [SetUpAs, passing_player, passed.player] at setUp

theorem startAt_setUp (p : Playback) (timeline : Timeline) (index : Nat) :
    SetUpAs p (p.startAt timeline index).2 := by
  have ran := ran_setUp (run_ran (p.readied timeline index))
  rwa [SetUpAs, readied_config, readied_timelineKey] at ran

theorem step_setUp {p q : Playback} {c : Call} {g : Progress} (h : Step p q c g) :
    SetUpAs p q := by
  cases h with
  | finished navigation same | ungated navigation gate same | unshown navigation reveal same =>
    rw [same]
    exact ⟨rfl, rfl⟩
  | ignored navigation enabled player surface | completed navigation enabled shown player surface
  | refused navigation gated pressed player surface
  | toggled navigation gated pressed player surface
  | resolved navigation gated pressed player surface
  | fellBack navigation gated pressed player surface
  | showing navigation shown ticked incomplete player surface
  | shown navigation shown ticked complete player surface =>
    rw [SetUpAs, player]
    exact ⟨rfl, rfl⟩
  | ran navigation enabled reveal run player surface =>
    rw [SetUpAs, player]
    exact ran_setUp (ran_of_run run)

theorem startAt_timelineKey (p : Playback) (timeline : Timeline) (index : Nat) :
    (p.startAt timeline index).2.player.timelineKey = p.player.timelineKey :=
  (startAt_setUp p timeline index).2

theorem step_timelineKey {p q : Playback} {c : Call} {g : Progress} (h : Step p q c g) :
    q.player.timelineKey = p.player.timelineKey := (step_setUp h).2

end VisualNovel.Playback
