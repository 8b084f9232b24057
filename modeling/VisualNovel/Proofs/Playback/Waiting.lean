import VisualNovel.Proofs.Playback.Dispatched

namespace VisualNovel

namespace Event

def isTransition : Event → Bool
  | .timelineTransition _ => true
  | .sceneTransition _ => true
  | _ => false

def isStop (e : Event) : Bool := e.isBlocking && !e.isTransition

theorem isStop_iff {e : Event} :
    e.isStop = true ↔ e.pacing = .blocking ∧ e.isTransition = false := by
  have blocking : e.isBlocking = true ↔ e.pacing = .blocking := by
    unfold isBlocking
    cases e.pacing <;> decide
  simp [isStop, blocking]

end Event

namespace Playback

theorem block_navigates {p : Playback} {e : Event} (h : e.isTransition = true) :
    ∃ n, (p.block e).1 = .navigate n := by
  cases e with
  | timelineTransition key => exact ⟨_, rfl⟩
  | sceneTransition jump => exact ⟨_, rfl⟩
  | _ => cases h

theorem Blocked.waits {p q : Playback} {e : Event} {g : Progress} (h : Blocked p q e g)
    (stays : e.isTransition = false) :
    isWaiting g = true ∧ q.player.navigation = p.player.navigation ∧
      q.player.timelineKey = p.player.timelineKey := by
  cases h with
  | typing text hidden player surface | waiting player surface | stalled player surface
  | gate opens player surface => exact ⟨rfl, by rw [player], by rw [player]⟩
  | restart player surface | scene player surface => cases stays

/-- The player plays the timeline of the name, and waits at the event right before its cursor. -/
structure Waiting (r : Registry) (key : String) (p : Playback) : Prop where
  named : p.player.timelineKey = some key
  navigation : p.player.navigation = none
  waits : isWaiting p.player.progress = true
  stopped : ∃ timeline e, r.find? key = some timeline ∧ p.player.timeline = some timeline ∧
    0 < p.player.index ∧ timeline[p.player.index - 1]? = some e ∧ e.isStop = true

/-- A player has come to the end, or wants to be left, or waits. -/
def Answered (r : Registry) (key : String) (g : Progress) (p : Playback) : Prop :=
  g = .ended ∨ (∃ n, g = .navigate n) ∨ isWaiting g = true ∧ Waiting r key p

theorem Waiting.congr {r : Registry} {key : String} {p q : Playback} (h : Waiting r key p)
    (name : q.player.timelineKey = p.player.timelineKey)
    (plays : q.player.timeline = p.player.timeline) (index : q.player.index = p.player.index)
    (navigation : q.player.navigation = none) (waits : isWaiting q.player.progress = true) :
    Waiting r key q :=
  ⟨name.trans h.named, navigation, waits, by simpa only [plays, index] using h.stopped⟩

theorem run_answered {r : Registry} {key : String} {timeline : Timeline} {p m : Playback}
    {g : Progress} (found : r.find? key = some timeline) (named : p.player.timelineKey = some key)
    (plays : p.player.timeline = some timeline) (navigation : p.player.navigation = none)
    (run : p.run = (g, m)) : Answered r key g (m.settle g).2 := by
  simp only [Playback.run, plays] at run
  obtain ⟨q, passed, ended⟩ | ⟨q, events, e, rest, left, passed, blocking, stopped⟩ :=
    runThrough_cases p (timeline.drop p.player.index)
  · rw [ended] at run
    exact .inl (congrArg Prod.fst run).symm
  · rw [stopped] at run
    cases transition : e.isTransition with
    | true =>
      obtain ⟨n, navigates⟩ := block_navigates (p := q.passing e) transition
      rw [run] at navigates
      exact .inr (.inl ⟨n, navigates⟩)
    | false =>
      have blocked := block_blocked (q.passing e) e
      rw [run] at blocked
      obtain ⟨waits, still, name⟩ := blocked.waits transition
      have moved := blocked_moved blocked
      have place : m.player.index = p.player.index + events.length + 1 := by
        simpa [passed.player] using moved.index
      have last : timeline[p.player.index + events.length]? = some e := by
        rw [← List.getElem?_drop, left]
        simp
      refine .inr (.inr ⟨waits, ?_, ?_, waits, timeline, e, found, ?_, ?_, ?_, ?_⟩)
      · simpa [passed.player, named] using name
      · simpa [passed.player, navigation] using still
      · simpa [passed.player, plays] using moved.plays
      · simp [place]
      · simpa [place] using last
      · exact Event.isStop_iff.2 ⟨blocking, transition⟩

theorem Waiting.step {r : Registry} {key : String} {p q : Playback} {c : Call} {g : Progress}
    (h : Waiting r key p) (step : Step p q c g) : Answered r key g q := by
  cases step with
  | finished navigation same =>
    rw [h.navigation] at navigation
    cases navigation
  | ungated navigation gate same => exact .inr (.inr ⟨h.waits, same ▸ h⟩)
  | unshown navigation reveal same => exact .inr (.inr ⟨h.waits, same ▸ h⟩)
  | ignored navigation enabled player surface
  | refused navigation gated pressed player surface
  | toggled navigation gated pressed player surface =>
    refine .inr (.inr ⟨h.waits, ?_⟩)
    exact h.congr (by rw [player]) (by rw [player]) (by rw [player]) (by rw [player, navigation])
      (by simpa only [player] using h.waits)
  | completed navigation enabled shown player surface
  | fellBack navigation gated pressed player surface
  | shown navigation shown ticked complete player surface =>
    refine .inr (.inr ⟨rfl, ?_⟩)
    exact h.congr (by rw [player]) (by rw [player]) (by rw [player]) (by rw [player, navigation])
      (by simp only [player, isWaiting])
  | showing navigation shown ticked incomplete player surface =>
    refine .inr (.inr ⟨rfl, ?_⟩)
    exact h.congr (by rw [player]) (by rw [player]) (by rw [player]) (by rw [player, navigation])
      (by simpa only [player] using h.waits)
  | resolved navigation gated pressed player surface => exact .inr (.inl ⟨_, rfl⟩)
  | @ran m g navigation enabled reveal run player surface =>
    obtain ⟨timeline, e, found, plays, -⟩ := h.stopped
    obtain ended | navigates | ⟨waits, waiting⟩ := run_answered found h.named plays navigation run
    · exact .inl ended
    · exact .inr (.inl navigates)
    · refine .inr (.inr ⟨waits, ?_⟩)
      exact waiting.congr (by rw [player]; rfl) (by rw [player]; rfl) (by rw [player]; rfl)
        (by rw [player]; exact waiting.navigation) (by rw [player]; exact waits)

/-- Time alone leads nowhere. -/
theorem Waiting.ticked {r : Registry} {key : String} {p q : Playback} {time : Duration}
    {g : Progress} (h : Waiting r key p) (ticked : p.tick time = .ok (g, q)) :
    isWaiting g = true ∧ Waiting r key q ∧ q.player.index = p.player.index := by
  have step : Step p q (.tick time) g := tick_step ticked
  have place := (step_moved step (by simp)).index
  have waits : isWaiting g = true := by
    cases step with
    | finished navigation same =>
      rw [h.navigation] at navigation
      cases navigation
    | unshown navigation reveal same => exact h.waits
    | showing navigation shown ticked incomplete player surface
    | shown navigation shown ticked complete player surface => rfl
  obtain rfl | ⟨n, rfl⟩ | ⟨-, waiting⟩ := h.step step
  · cases waits
  · cases waits
  · exact ⟨waits, waiting, place⟩

/-- A player that begins at a stop carries out that event and no other. -/
theorem startAt_stop (p : Playback) {timeline : Timeline} {index : Nat} {e : Event}
    (found : timeline[index]? = some e) (stop : e.isStop = true) :
    ∃ m : Playback, m.Ready timeline index ∧ m.player.timelineKey = p.player.timelineKey ∧
      p.startAt timeline index =
        ((m.passing e).block e).2.settle ((m.passing e).block e).1 ∧
      (p.startAtTold timeline index).2 = [(index, e)] := by
  obtain ⟨m, ready, -, name, start⟩ := startAtTold_ready p timeline index
  have blocking := (Event.isStop_iff.1 stop).1
  obtain ⟨lt, same⟩ := List.getElem?_eq_some_iff.1 found
  have left : timeline.drop index = e :: timeline.drop (index + 1) := by
    rw [List.drop_eq_getElem_cons lt, same]
  have run : m.run = (m.passing e).block e := by
    simp only [Playback.run, ready.timeline, ready.index, left, runThrough, blocking]
  refine ⟨m, ready, name, ?_, ?_⟩
  · rw [← startAtTold_fst, start, run]
  · rw [start]
    simp only [runTold, ready.timeline, ready.index, left, runThroughTold, blocking]

theorem startAt_waiting {r : Registry} {key : String} {p : Playback} {timeline : Timeline}
    {index : Nat} {e : Event} (registered : r.find? key = some timeline)
    (named : p.player.timelineKey = some key) (found : timeline[index]? = some e)
    (stop : e.isStop = true) :
    isWaiting (p.startAt timeline index).1 = true ∧
      Waiting r key (p.startAt timeline index).2 ∧
      (p.startAt timeline index).2.player.index = index + 1 := by
  obtain ⟨m, ready, name, start, -⟩ := startAt_stop p found stop
  have blocked := block_blocked (m.passing e) e
  obtain ⟨waits, still, kept⟩ := blocked.waits (Event.isStop_iff.1 stop).2
  have moved := blocked_moved blocked
  have place : ((m.passing e).block e).2.player.index = index + 1 := by
    simpa [ready.index] using moved.index
  rw [start]
  refine ⟨waits, ⟨?_, ?_, waits, timeline, e, registered, ?_, ?_, ?_, stop⟩, place⟩
  · simpa [name, named] using kept
  · simpa [ready.navigation] using still
  · simpa [ready.timeline] using moved.plays
  · simp [place]
  · simpa [place] using found

theorem block_typing {p : Playback} {e : Event} (h : (p.block e).1 = .typing) :
    ∃ reveal, (p.block e).2.player.reveal = some reveal ∧ reveal.elapsed = .zero := by
  cases e with
  | dialog line =>
    have shown : (p.showLine line).1 = .typing := h
    change ∃ reveal, (p.showLine line).2.player.reveal = some reveal ∧ reveal.elapsed = .zero
    unfold showLine at shown ⊢
    dsimp only at shown ⊢
    split at shown
    · cases shown
    · next hidden =>
      rw [if_neg hidden]
      exact ⟨_, rfl, rfl⟩
  | choice options =>
    simp only [block] at h
    split at h <;> cases h
  | multiChoice set =>
    simp only [block] at h
    split at h <;> cases h
  | _ => cases h

/-- The clock of a line that was just begun does not overflow. -/
theorem tick_begun {p : Playback} {reveal : Reveal} (shown : p.player.reveal = some reveal)
    (begun : reveal.elapsed = .zero) (time : Duration) : ∃ r, p.tick time = .ok r := by
  have ticked : ∃ result, reveal.tick time = .ok result := by
    unfold Reveal.tick
    rw [begun, time.zero_add?]
    dsimp only
    split
    · exact ⟨_, rfl⟩
    · split <;> exact ⟨_, rfl⟩
  obtain ⟨result, ticked⟩ := ticked
  unfold tick
  split
  · exact ⟨_, rfl⟩
  · simp only [shown, ticked, bind, Except.bind]
    split <;> exact ⟨_, rfl⟩

end Playback

end VisualNovel
