import VisualNovel.Dump
import VisualNovel.Proofs.Playback.Waiting

namespace VisualNovel

open Dump (Stop)

/-- Where a player comes to a stop that a pointer down does not end. -/
def Event.stop? : Event → Option Stop
  | .timelineTransition key => some (.navigate (.restart key))
  | .sceneTransition jump => some (.navigate (.scene jump.key jump.data))
  | .choice options => if options.isEmpty then none else some .gate
  | .multiChoice set => if set.choices.isEmpty then none else some .gate
  | _ => none

theorem Event.stop?_of_immediate {e : Event} (h : e.pacing = .immediate) : e.stop? = none := by
  cases e <;> first | rfl | cases h

/-- The first stop from a place on, and the place behind it. -/
def stopFrom (index : Nat) : List Event → Nat × Stop
  | [] => (index, .ended)
  | e :: rest =>
    match e.stop? with
    | some stop => (index + 1, stop)
    | none => stopFrom (index + 1) rest

theorem stopFrom_append {events : List Event} (passed : ∀ e ∈ events, e.stop? = none)
    (index : Nat) (rest : List Event) :
    stopFrom index (events ++ rest) = stopFrom (index + events.length) rest := by
  induction events generalizing index with
  | nil => rfl
  | cons e events ih =>
    rw [List.forall_mem_cons] at passed
    simp only [List.cons_append, stopFrom, passed.1, List.length_cons]
    rw [ih passed.2]
    congr 1
    omega

theorem lt_stopFrom (index : Nat) {events : List Event}
    (h : (stopFrom index events).2 ≠ .ended) : index < (stopFrom index events).1 := by
  induction events generalizing index with
  | nil => exact (h rfl).elim
  | cons e events ih =>
    simp only [stopFrom] at h ⊢
    split
    · exact Nat.lt_succ_self index
    · next goes =>
      rw [goes] at h
      exact Nat.lt_of_succ_lt (ih (index + 1) h)

namespace Playback

/-- A player with which a pointer down is all that is needed. -/
structure Paused (timeline : Timeline) (p : Playback) : Prop where
  plays : p.player.timeline = some timeline
  navigation : p.player.navigation = none
  enabled : p.player.advanceEnabled = true

/-- Where the player will stop, and with which cursor. -/
def course (timeline : Timeline) (p : Playback) : Nat × Stop :=
  stopFrom p.player.index (timeline.drop p.player.index)

/-- How often the pointer may have to go down before the last time. -/
def cost (timeline : Timeline) (p : Playback) : Nat :=
  2 * (timeline.length - p.player.index) + if p.player.reveal.isSome then 1 else 0

/-- The pointer does not lead on from a gate. -/
structure Gated (p : Playback) : Prop where
  navigation : p.player.navigation = none
  disabled : p.player.advanceEnabled = false
  progress : p.player.progress = .waitChoice

/-- The answer of a player on its course: it has come to the stop, or it is nearer to it. -/
inductive Nearing (timeline : Timeline) (target : Nat × Stop) (bound : Nat) :
    Progress × Playback → Prop where
  | stopped {g : Progress} {p : Playback} (stop : Dump.stop? g = some target.2)
      (index : p.player.index = target.1) (gated : g = .waitChoice → p.Gated) :
      Nearing timeline target bound (g, p)
  | paused {g : Progress} {p : Playback} (goes : Dump.stop? g = none) (paused : p.Paused timeline)
      (course : p.course timeline = target) (cost : p.cost timeline < bound)
      (begun : g = .typing → ∃ reveal, p.player.reveal = some reveal ∧ reveal.elapsed = .zero) :
      Nearing timeline target bound (g, p)

variable {timeline : Timeline} {p : Playback}

theorem block_stop? (p : Playback) (e : Event) : Dump.stop? (p.block e).1 = e.stop? := by
  cases e with
  | dialog line =>
    simp only [block, showLine]
    split <;> rfl
  | choice options =>
    simp only [block, Event.stop?]
    split <;> rfl
  | multiChoice set =>
    simp only [block, Event.stop?]
    split <;> rfl
  | _ => rfl

theorem block_nearing (paused : p.Paused timeline) {e : Event} {rest : List Event}
    (left : timeline.drop p.player.index = e :: rest) :
    Nearing timeline (p.course timeline) (2 * (timeline.length - p.player.index))
      (((p.passing e).block e).2.settle ((p.passing e).block e).1) := by
  have stops := block_stop? (p.passing e) e
  have begun : ((p.passing e).block e).1 = .typing → _ := block_typing
  have blocked := block_blocked (p.passing e) e
  generalize (p.passing e).block e = r at stops begun blocked ⊢
  obtain ⟨g, m⟩ := r
  dsimp only at stops begun blocked ⊢
  have inside : p.player.index < timeline.length := by
    refine Nat.lt_of_not_le fun beyond => ?_
    rw [List.drop_eq_nil_of_le beyond] at left
    cases left
  have later : timeline.drop (p.player.index + 1) = rest := by
    rw [← List.drop_drop, left, List.drop_one, List.tail_cons]
  -- the player has gone past the event, and pauses unless it is told to stop
  have pauses (still : m.player.index = p.player.index + 1) (kept : m.Paused timeline)
      (goes : Dump.stop? g = none) :
      Nearing timeline (p.course timeline) (2 * (timeline.length - p.player.index))
        (m.settle g) := by
    refine .paused goes ⟨kept.plays, kept.navigation, kept.enabled⟩ ?_ ?_ begun
    · have none : e.stop? = none := stops.symm.trans goes
      simp only [course, left, stopFrom, none, still, later]
    · have one : (if m.player.reveal.isSome then 1 else 0) ≤ 1 := by split <;> omega
      simp only [cost, still]
      omega
  have stopped (still : m.player.index = p.player.index + 1) {stop : Stop}
      (some : Dump.stop? g = some stop) (gated : g = .waitChoice → (m.settle g).2.Gated) :
      Nearing timeline (p.course timeline) (2 * (timeline.length - p.player.index))
        (m.settle g) := by
    have target : p.course timeline = (p.player.index + 1, stop) := by
      simp only [course, left, stopFrom, stops.symm.trans some]
    rw [target]
    exact .stopped some still gated
  cases blocked with
  | typing text hidden player surface | waiting player surface | stalled player surface =>
    refine pauses (by simp [player]) ⟨?_, ?_, ?_⟩ rfl
    · simp [player, paused.plays]
    · simp [player, paused.navigation]
    · simp [player, paused.enabled]
  | restart player surface | scene player surface => exact stopped (by simp [player]) rfl nofun
  | gate opens player surface =>
    refine stopped (by simp [player]) rfl fun _ => ⟨?_, ?_, rfl⟩
    · simp [settle, player, paused.navigation]
    · simp [settle, player]

theorem Nearing.mono {target : Nat × Stop} {bound more : Nat} {r : Progress × Playback}
    (h : Nearing timeline target bound r) (le : bound ≤ more) : Nearing timeline target more r := by
  cases h with
  | stopped stop index gated => exact .stopped stop index gated
  | paused goes paused course cost begun =>
    exact .paused goes paused course (Nat.lt_of_lt_of_le cost le) begun

theorem run_nearing (paused : p.Paused timeline) :
    Nearing timeline (p.course timeline) (2 * (timeline.length - p.player.index))
      (p.run.2.settle p.run.1) := by
  simp only [run, paused.plays]
  obtain ⟨q, passed, ended⟩ | ⟨q, events, e, rest, left, passed, -, stopped⟩ :=
    runThrough_cases p (timeline.drop p.player.index)
  · rw [ended]
    have course : p.course timeline = (q.player.index, .ended) := by
      have all := stopFrom_append (fun e mem => Event.stop?_of_immediate (passed.immediate e mem))
        p.player.index []
      rw [List.append_nil] at all
      rw [Playback.course, all, passed.player]
      rfl
    rw [course]
    exact .stopped rfl (by simp) (by rintro ⟨⟩)
  · rw [stopped]
    have place : q.player.index = p.player.index + events.length := by rw [passed.player]
    have next : timeline.drop q.player.index = e :: rest := by
      rw [place, ← List.drop_drop, left, List.drop_left]
    have course : q.course timeline = p.course timeline := by
      have all := stopFrom_append (fun e mem => Event.stop?_of_immediate (passed.immediate e mem))
        p.player.index (e :: rest)
      rw [Playback.course, Playback.course, next, left, all, place]
    have pausedThere : q.Paused timeline := by
      refine ⟨?_, ?_, ?_⟩
      · rw [passed.player, paused.plays]
      · rw [passed.player, paused.navigation]
      · rw [passed.player, paused.enabled]
    rw [← course]
    exact (block_nearing pausedThere next).mono (by omega)

/-- A pointer down completes the line that is being shown, or leads to the next event. -/
theorem advance_nearing (paused : p.Paused timeline) :
    Nearing timeline (p.course timeline) (p.cost timeline) p.advance := by
  cases shown : p.player.reveal with
  | none =>
    have cost : p.cost timeline = 2 * (timeline.length - p.player.index) := by simp [cost, shown]
    rw [advance_run paused.navigation paused.enabled shown, cost]
    exact run_nearing paused
  | some reveal =>
    rw [advance_shown paused.navigation paused.enabled shown]
    refine .paused rfl ⟨?_, ?_, ?_⟩ ?_ ?_ nofun
    · simp [paused.plays]
    · simp [paused.navigation]
    · simp [paused.enabled]
    · simp [course]
    · simp [cost, shown]

theorem startAt_nearing (p : Playback) (timeline : Timeline) (index : Nat) :
    Nearing timeline (stopFrom index (timeline.drop index)) (2 * (timeline.length - index))
      (p.startAt timeline index) := by
  obtain ⟨m, ready, start⟩ := startAt_ready p timeline index
  have near := run_nearing ⟨ready.timeline, ready.navigation, ready.enabled⟩
  rwa [course, ready.index, ← start] at near

/-- While a line is shown, time leads no further than to its end. -/
theorem tick_paused (paused : p.Paused timeline) {reveal : Reveal}
    (shown : p.player.reveal = some reveal) {time : Duration} {g : Progress} {q : Playback}
    (ticked : p.tick time = .ok (g, q)) : Dump.stop? g = none ∧ q.Paused timeline ∧
      q.course timeline = p.course timeline ∧ q.cost timeline ≤ p.cost timeline := by
  have step := tick_step ticked
  cases step with
  | finished navigation same => rw [paused.navigation] at navigation; cases navigation
  | unshown navigation unshown same => rw [shown] at unshown; cases unshown
  | showing navigation _ ticked incomplete player surface
  | shown navigation _ ticked complete player surface =>
    refine ⟨rfl, ⟨?_, ?_, ?_⟩, ?_, ?_⟩
    · rw [player, paused.plays]
    · rw [player, paused.navigation]
    · rw [player, paused.enabled]
    · simp only [course, player]
    · simp [cost, player, shown]

theorem Gated.advance (gated : p.Gated) :
    p.advance.1 = .waitChoice ∧ p.advance.2.Gated ∧ p.advance.2.snapshot = p.snapshot := by
  rw [advance_ignored gated.navigation gated.disabled]
  refine ⟨gated.progress, ⟨?_, ?_, ?_⟩, ?_⟩
  · simp [gated.navigation]
  · simp [gated.disabled]
  · simp [gated.progress]
  · simp [snapshot]

end Playback

namespace Dump

open Playback (Nearing)

theorem advanceAll_stopped (bound count : Nat) {g : Progress} {p : Playback} {stop : Stop}
    (h : stop? g = some stop) : advanceAll bound count (g, p) = (count, stop, p) := by
  cases bound <;> simp only [advanceAll, h]

/-- With enough pointer downs a player on its course comes to the stop. -/
theorem advanceAll_nearing {timeline : Timeline} {target : Nat × Stop} {bound : Nat}
    {r : Progress × Playback} (near : Nearing timeline target bound r) (count : Nat) :
    ∃ advances q, advanceAll bound count r = (advances, target.2, q) ∧
      q.player.index = target.1 ∧ q.player.timelineKey = r.2.player.timelineKey := by
  induction bound generalizing r count with
  | zero =>
    cases near with
    | stopped stop index gated => exact ⟨count, _, advanceAll_stopped 0 count stop, index, rfl⟩
    | paused goes paused course cost begun => cases cost
  | succ bound ih =>
    cases near with
    | stopped stop index gated =>
      exact ⟨count, _, advanceAll_stopped (bound + 1) count stop, index, rfl⟩
    | @paused g p goes paused course cost begun =>
      have near := (Playback.advance_nearing paused).mono (Nat.le_of_lt_succ cost)
      rw [course] at near
      obtain ⟨advances, q, all, index, name⟩ := ih near (count + 1)
      refine ⟨advances, q, ?_, index, ?_⟩
      · rw [← all]
        simp only [advanceAll, goes]
      · exact name.trans (Playback.step_timelineKey (Playback.advance_step p))

/-- The player that a run begins with, which has the name of the timeline. -/
def beginner (config : Config) (start : String) (stream : Random) : Playback :=
  { Playback.ofConfig config (.ofCanvas config.canvas) stream with
    player.timelineKey := some start }

section Found

variable {registry : Registry} {start : String} {timeline : Timeline}
  (found : registry.find? start = some timeline)
include found

theorem startKey_beginner (config : Config) (stream : Random) :
    (Playback.ofConfig config (.ofCanvas config.canvas) stream).startKey registry start =
      .ok ((beginner config start stream).startAt timeline 0) := by
  have got : registry.get start = .ok timeline := by simp only [Registry.get, found]
  simp only [Playback.startKey, Playback.startNamed, got, bind, Except.bind, pure, Except.pure]
  rfl

theorem run_of_advanceAll {config : Config} {stream : Random} {advances : Nat} {stop : Stop}
    {q : Playback} (all : advanceAll (2 * timeline.length + 1) 0
      ((beginner config start stream).startAt timeline 0) = (advances, stop, q)) :
    run registry config start stream =
      .ok ⟨start, q.snapshot, stop, advances, q.surface.log.toList⟩ := by
  have got : registry.get start = .ok timeline := by simp only [Registry.get, found]
  simp only [run, got, startKey_beginner found, bind, Except.bind, pure, Except.pure]
  rw [all]

theorem run_course (config : Config) (stream : Random) :
    ∃ report, run registry config start stream = .ok report ∧
      report.cursor = ⟨some start, (stopFrom 0 timeline).1⟩ ∧
      report.stopped = (stopFrom 0 timeline).2 := by
  let p := beginner config start stream
  have near : Nearing timeline (stopFrom 0 timeline) (2 * timeline.length + 1)
      (p.startAt timeline 0) := (Playback.startAt_nearing p timeline 0).mono (by omega)
  obtain ⟨advances, q, all, index, name⟩ := advanceAll_nearing near 0
  have key : q.player.timelineKey = some start :=
    name.trans (Playback.startAt_timelineKey p timeline 0)
  exact ⟨_, run_of_advanceAll found all, by rw [Playback.snapshot, key, index], rfl⟩

end Found

end Dump

end VisualNovel
