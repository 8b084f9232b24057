import VisualNovel.Proofs.Playback.Records

namespace VisualNovel.Playback

/-- The events of those that are left that a player carries out at once: immediate ones and the
blocking one behind them, or immediate ones to the end. -/
inductive Stretch : List Event → Progress → List Event → Prop where
  | ended {events : List Event} (immediate : ∀ e ∈ events, e.pacing = .immediate) :
      Stretch events .ended events
  | stopped {events rest : List Event} {e : Event} {g : Progress}
      (immediate : ∀ e ∈ events, e.pacing = .immediate) (blocking : e.pacing = .blocking) :
      Stretch (events ++ e :: rest) g (events ++ [e])

theorem Stretch.cons {left done : List Event} {g : Progress} {e : Event}
    (he : e.pacing = .immediate) (h : Stretch left g done) :
    Stretch (e :: left) g (e :: done) := by
  cases h with
  | ended immediate => exact .ended (List.forall_mem_cons.2 ⟨he, immediate⟩)
  | @stopped events rest e' _ immediate blocking =>
    exact @stopped (e :: events) rest e' g (List.forall_mem_cons.2 ⟨he, immediate⟩) blocking

theorem Stretch.isPrefix {left done : List Event} {g : Progress} (h : Stretch left g done) :
    done <+: left := by
  cases h with
  | ended immediate => exact List.prefix_rfl
  | @stopped events rest e _ immediate blocking => exact ⟨rest, by simp⟩

/-- What a step carries out, and where the player then stands. -/
structure Moved (p q : Playback) (told : List (Nat × Event)) : Prop where
  plays : q.player.timeline = p.player.timeline
  config : q.player.config = p.player.config
  numbers : told.map Prod.fst = List.range' p.player.index told.length
  index : q.player.index = p.player.index + told.length

theorem moved_nil {p q : Playback} (plays : q.player.timeline = p.player.timeline)
    (config : q.player.config = p.player.config) (index : q.player.index = p.player.index) :
    Moved p q [] :=
  ⟨plays, config, rfl, index⟩

theorem moved_cons {p m q : Playback} {e : Event} {told : List (Nat × Event)}
    (passed : m.player = (p.passing e).player) (h : Moved m q told) :
    Moved p q ((p.player.index, e) :: told) := by
  rw [passing_player] at passed
  refine ⟨?_, ?_, ?_, ?_⟩
  · rw [h.plays, passed]
  · rw [h.config, passed]
  · simp [h.numbers, passed, List.range'_succ]
  · simp only [h.index, passed, List.length_cons]
    omega

theorem blocked_moved {p q : Playback} {e : Event} {g : Progress} (h : Blocked p q e g) :
    Moved p q [] := by
  cases h with
  | typing text hidden player surface | waiting player surface | stalled player surface
  | restart player surface | scene player surface | gate opens player surface =>
    exact moved_nil (by rw [player]) (by rw [player]) (by rw [player])

/-- What a player that runs through some events carries out, and where it then stands. -/
theorem runThroughTold_moved (p : Playback) (left : List Event) :
    Stretch left (p.runThrough left).1 ((p.runThroughTold left).2.map Prod.snd) ∧
      Moved p (p.runThrough left).2 (p.runThroughTold left).2 := by
  induction left generalizing p with
  | nil =>
    simp only [runThrough, runThroughTold]
    exact ⟨.ended (by simp), moved_nil (by simp) (by simp) (by simp)⟩
  | cons e rest ih =>
    cases he : e.pacing with
    | immediate =>
      obtain ⟨stretch, moved⟩ := ih ((p.passing e).apply e)
      simp only [runThrough, runThroughTold, he]
      exact ⟨stretch.cons he, moved_cons (apply_player _ e) moved⟩
    | blocking =>
      simp only [runThrough, runThroughTold, he]
      refine ⟨@Stretch.stopped [] rest e _ (by simp) he, ?_⟩
      exact moved_cons rfl (blocked_moved (block_blocked (p.passing e) e))

theorem runTold_moved (p : Playback) :
    Stretch ((p.player.timeline.getD []).drop p.player.index) p.run.1 (p.runTold.2.map Prod.snd) ∧
      Moved p p.run.2 p.runTold.2 := by
  unfold run runTold
  cases plays : p.player.timeline with
  | none => exact ⟨by simpa using .ended (by simp), moved_nil rfl rfl rfl⟩
  | some timeline => exact runThroughTold_moved p _

/-- A step other than a pointer down carries out nothing. -/
theorem step_moved {p q : Playback} {c : Call} {g : Progress} (h : Step p q c g)
    (c_ne : c ≠ .advance) : Moved p q [] := by
  cases h with
  | finished navigation same | ungated navigation gate same | unshown navigation reveal same =>
    exact moved_nil (by rw [same]) (by rw [same]) (by rw [same])
  | ignored | completed | ran => exact (c_ne rfl).elim
  | refused navigation gated pressed player surface
  | toggled navigation gated pressed player surface
  | resolved navigation gated pressed player surface
  | fellBack navigation gated pressed player surface
  | showing navigation shown ticked incomplete player surface
  | shown navigation shown ticked complete player surface =>
    exact moved_nil (by rw [player]) (by rw [player]) (by rw [player])

/-- What a call carries out: nothing, or a stretch of the events that are left. -/
def Carries (timeline : Timeline) (p : Playback) (t : Told) : Prop :=
  t.2 = [] ∨ Stretch (timeline.drop p.player.index) t.1.1 (t.2.map Prod.snd)

theorem advanceTold_moved (p : Playback) :
    Carries (p.player.timeline.getD []) p p.advanceTold ∧ Moved p p.advance.2 p.advanceTold.2 := by
  unfold Carries advanceTold advance
  split
  · exact ⟨.inl rfl, moved_nil rfl rfl rfl⟩
  · split
    · exact ⟨.inl rfl, moved_nil (by simp) (by simp) (by simp)⟩
    · cases p.player.reveal with
      | some reveal => exact ⟨.inl rfl, moved_nil (by simp) (by simp) (by simp)⟩
      | none =>
        obtain ⟨stretch, moved⟩ := runTold_moved p
        refine ⟨.inr (by simpa using stretch), ?_⟩
        exact ⟨moved.plays, moved.config, moved.numbers, moved.index⟩

theorem callTold_moved {p : Playback} {c : Call} {t : Told} (h : p.callTold c = .ok t) :
    Carries (p.player.timeline.getD []) p t ∧ Moved p t.1.2 t.2 := by
  have step := call_step (call_of_callTold h)
  cases c with
  | advance =>
    cases h
    rw [advanceTold_fst]
    exact advanceTold_moved p
  | press id =>
    cases h
    exact ⟨.inl rfl, step_moved step (by simp)⟩
  | tick time =>
    have nothing := callTold_tick h
    rw [nothing]
    exact ⟨.inl nothing, step_moved step (by simp)⟩

/-- All that was carried out since a timeline was begun at a place. -/
structure Accounted (timeline : Timeline) (first : Nat) (p : Playback)
    (told : List (Nat × Event)) : Prop where
  plays : p.player.timeline = some timeline
  first_le : first ≤ p.player.index
  numbers : told.map Prod.fst = List.range' first (p.player.index - first)
  events : told.map Prod.snd = (timeline.drop first).take (p.player.index - first)

theorem Carries.isPrefix {timeline : Timeline} {p : Playback} {t : Told}
    (h : Carries timeline p t) : t.2.map Prod.snd <+: timeline.drop p.player.index := by
  obtain nothing | stretch := h
  · rw [nothing]
    exact List.nil_prefix
  · exact stretch.isPrefix

theorem Accounted.moved {timeline : Timeline} {first : Nat} {p q : Playback}
    {told new : List (Nat × Event)} (h : Accounted timeline first p told) (moved : Moved p q new)
    (next : new.map Prod.snd <+: timeline.drop p.player.index) :
    Accounted timeline first q (told ++ new) := by
  have first_le := h.first_le
  have index := moved.index
  have longer : q.player.index - first = (p.player.index - first) + new.length := by omega
  have place : first + (p.player.index - first) = p.player.index := by omega
  refine ⟨moved.plays.trans h.plays, by omega, ?_, ?_⟩
  · rw [List.map_append, h.numbers, moved.numbers, longer, ← List.range'_append_1, place]
  · rw [List.map_append, h.events, longer, List.take_add, List.drop_drop, place]
    congr 1
    simpa using List.prefix_iff_eq_take.1 next

/-- The player that is about to play, and what comes of it. -/
theorem startAtTold_ready (p : Playback) (timeline : Timeline) (index : Nat) :
    ∃ m : Playback, m.Ready timeline index ∧ m.player.config = p.player.config ∧
      m.player.timelineKey = p.player.timelineKey ∧
      p.startAtTold timeline index = (m.run.2.settle m.run.1, m.runTold.2) := by
  simp only [← runTold_fst]
  exact ⟨_, p.readied_ready timeline index, by simp, by simp, rfl⟩

theorem startAtTold_stretch (p : Playback) (timeline : Timeline) (first : Nat) :
    Stretch (timeline.drop first) (p.startAt timeline first).1
      ((p.startAtTold timeline first).2.map Prod.snd) := by
  obtain ⟨m, ready, -, -, start⟩ := startAtTold_ready p timeline first
  have stretch := (runTold_moved m).1
  rw [ready.timeline, ready.index, Option.getD_some] at stretch
  rw [← startAtTold_fst, start]
  exact stretch

theorem accounted_startAt (p : Playback) (timeline : Timeline) (first : Nat) :
    Accounted timeline first (p.startAt timeline first).2 (p.startAtTold timeline first).2 := by
  obtain ⟨m, ready, -, -, start⟩ := startAtTold_ready p timeline first
  have stretch := startAtTold_stretch p timeline first
  have moved := (runTold_moved m).2
  have begun : Accounted timeline first m [] := by
    constructor <;> simp [ready.timeline, ready.index]
  rw [← startAtTold_fst, start] at *
  refine begun.moved ⟨moved.plays, moved.config, moved.numbers, moved.index⟩ ?_
  rw [ready.index]
  exact stretch.isPrefix

theorem Accounted.called {timeline : Timeline} {first : Nat} {p : Playback}
    {told : List (Nat × Event)} {c : Call} {t : Told} (h : Accounted timeline first p told)
    (called : p.callTold c = .ok t) : Accounted timeline first t.1.2 (told ++ t.2) := by
  obtain ⟨carries, moved⟩ := callTold_moved called
  rw [h.plays, Option.getD_some] at carries
  exact h.moved moved carries.isPrefix

theorem Accounted.calls {timeline : Timeline} {first : Nat} {r s : Told} {cs : List Call}
    (h : Accounted timeline first r.1.2 r.2) (called : callsTold r cs = .ok s) :
    Accounted timeline first s.1.2 s.2 := by
  induction cs generalizing r with
  | nil =>
    cases called
    exact h
  | cons c rest ih =>
    obtain ⟨t, ht, hs⟩ := callsTold_cons.1 called
    exact ih (h.called ht) hs

theorem Accounted.index_le {timeline : Timeline} {first : Nat} {p : Playback}
    {told : List (Nat × Event)} (h : Accounted timeline first p told) :
    p.player.index ≤ max first timeline.length := by
  have numbers := congrArg List.length h.numbers
  have events := congrArg List.length h.events
  simp only [List.length_map, List.length_range', List.length_take, List.length_drop]
    at numbers events
  omega

section Accounted

variable {timeline : Timeline} {first : Nat} {p : Playback} {told : List (Nat × Event)}
  (h : Accounted timeline first p told)
include h

theorem Accounted.length : told.length = p.player.index - first := by
  simpa using congrArg List.length h.numbers

/-- In each place there is the event of the timeline, with its number. -/
theorem Accounted.getElem?_eq_some_iff {place : Nat} {d : Nat × Event} :
    told[place]? = some d ↔
      first + place = d.1 ∧ d.1 < p.player.index ∧ timeline[d.1]? = some d.2 := by
  have zipped : told = (told.map Prod.fst).zip (told.map Prod.snd) := by
    rw [List.zip_map', List.map_id']
  rw [zipped, h.numbers, h.events, List.getElem?_zip_eq_some]
  by_cases within : place < p.player.index - first
  · rw [List.getElem?_range' within, List.getElem?_take_of_lt within, List.getElem?_drop,
      Nat.one_mul, Option.some.injEq]
    constructor
    · rintro ⟨number, event⟩
      exact ⟨number, by omega, number ▸ event⟩
    · rintro ⟨number, -, event⟩
      exact ⟨number, number.symm ▸ event⟩
  · rw [List.getElem?_eq_none (by simpa using within)]
    constructor
    · rintro ⟨⟨⟩, -⟩
    · rintro ⟨number, lt, -⟩
      omega

theorem Accounted.mem {j : Nat} {e : Event} (first_le : first ≤ j) (lt : j < p.player.index)
    (found : timeline[j]? = some e) : (j, e) ∈ told :=
  List.mem_of_getElem? (h.getElem?_eq_some_iff.2 ⟨Nat.add_sub_cancel' first_le, lt, found⟩)

/-- The event that was carried out last is the one right before the cursor. -/
theorem Accounted.getLast?_eq_some_iff {d : Nat × Event} :
    told.getLast? = some d ↔ first < p.player.index ∧ p.player.index - 1 = d.1 ∧
      timeline[d.1]? = some d.2 := by
  rw [List.getLast?_eq_getElem?, h.length, h.getElem?_eq_some_iff]
  have first_le := h.first_le
  constructor
  · rintro ⟨number, lt, event⟩
    exact ⟨by omega, by omega, event⟩
  · rintro ⟨lt, number, event⟩
    exact ⟨by omega, by omega, event⟩

end Accounted

/-- After any calls all events up to the cursor are accounted for. -/
theorem accounted_calls {p : Playback} {timeline : Timeline} {first : Nat} {cs : List Call}
    {s : Progress × Playback} (h : calls (p.startAt timeline first) cs = .ok s) :
    ∃ told, callsTold (p.startAtTold timeline first) cs = .ok (s, told) ∧
      Accounted timeline first s.2 told := by
  rw [← startAtTold_fst] at h
  obtain ⟨told, ht⟩ := exists_callsTold h
  have begun : Accounted timeline first (p.startAtTold timeline first).1.2
      (p.startAtTold timeline first).2 := by
    rw [startAtTold_fst]
    exact accounted_startAt p timeline first
  exact ⟨told, ht, begun.calls ht⟩

theorem callsTold_recorded {α : Type} {tells : Log.Entry → Option α}
    (spares : Log.Entry.Spares tells) {p : Playback} {earlier : List α} {r s : Told}
    {cs : List Call} (config : r.1.2.player.config = p.player.config)
    (recorded : r.1.2.recorded tells = earlier ++ p.recordsOf tells r.2)
    (h : callsTold r cs = .ok s) : s.1.2.recorded tells = earlier ++ p.recordsOf tells s.2 := by
  induction cs generalizing r with
  | nil =>
    cases h
    exact recorded
  | cons c rest ih =>
    obtain ⟨t, ht, hs⟩ := callsTold_cons.1 h
    have kept := (callTold_moved ht).2.config
    refine @ih (t.1, r.2 ++ t.2) (kept.trans config) ?_ hs
    rw [callTold_recorded spares ht, recorded, recordsOf_congr config, List.append_assoc,
      ← recordsOf_append]

/-- A player whose cursor is recorded tells all its dispatches. -/
theorem dispatches_recorded {p : Playback} {timeline : Timeline} {first : Nat} {cs : List Call}
    {s : Told} (h : callsTold (p.startAtTold timeline first) cs = .ok s)
    (kept : p.player.config.log.allows .engine = true) :
    s.1.2.recorded Log.Entry.dispatch? =
      p.recorded Log.Entry.dispatch? ++ s.2.map fun d => (d.1, d.2.tag) := by
  have spares := Log.Entry.dispatch?_spares
  obtain ⟨m, ready, config, -, start⟩ := startAtTold_ready p timeline first
  have begun : (p.startAtTold timeline first).1.2.player.config = p.player.config := by
    rw [start]
    exact (runTold_moved m).2.config.trans config
  rw [callsTold_recorded spares begun (startAtTold_recorded spares p timeline first) h]
  simp [recordsOf, kept, Log.Entry.dispatch?]

/-- After any calls the events carried out since the timeline was begun are those up to the cursor,
in their order; the calls other than pointer downs carry out none, and every other one as many as it
can. -/
theorem dispatched_in_order {p : Playback} {timeline : Timeline} {first : Nat} {cs : List Call}
    {s : Progress × Playback} (h : calls (p.startAt timeline first) cs = .ok s) :
    (∃ told, callsTold (p.startAtTold timeline first) cs = .ok (s, told) ∧
        Accounted timeline first s.2 told ∧
        (p.player.config.log.allows .engine = true →
          s.2.recorded Log.Entry.dispatch? =
            p.recorded Log.Entry.dispatch? ++ told.map fun d => (d.1, d.2.tag))) ∧
      (timeline.length ≤ first → s.2.player.index = first) ∧
      Stretch (timeline.drop first) (p.startAt timeline first).1
        ((p.startAtTold timeline first).2.map Prod.snd) ∧
      (∀ c r, c ≠ .advance → s.2.call c = .ok r → r.2.player.index = s.2.player.index) ∧
      ∀ c t, s.2.callTold c = .ok t → s.2.call c = .ok t.1 ∧ Carries timeline s.2 t := by
  obtain ⟨told, ht, accounted⟩ := accounted_calls h
  refine ⟨⟨told, ht, accounted, dispatches_recorded ht⟩, ?_,
    startAtTold_stretch p timeline first, ?_, ?_⟩
  · intro past
    have first_le := accounted.first_le
    have index_le := accounted.index_le
    omega
  · intro c r other called
    exact (step_moved (call_step called) other).index
  · intro c t called
    have carries := (callTold_moved called).1
    rw [accounted.plays, Option.getD_some] at carries
    exact ⟨call_of_callTold called, carries⟩

/-- A line, an event without a meaning and the end, with calls between them that lead nowhere. -/
theorem dispatched_to_the_end :
    ∃ s told, calls
        (fresh.startAt [.clearBackground, .dialog { text := "Hi" }, .hideWebLink, .unknown,
          .clearDialog] 1)
        [.tick .zero, .advance, .press 3, .advance, .advance] = .ok s ∧
      callsTold
        (fresh.startAtTold [.clearBackground, .dialog { text := "Hi" }, .hideWebLink, .unknown,
          .clearDialog] 1)
        [.tick .zero, .advance, .press 3, .advance, .advance] = .ok (s, told) ∧
      told.map Prod.fst = [1, 2, 3, 4] ∧
      told.map Prod.snd = [.dialog { text := "Hi" }, .hideWebLink, .unknown, .clearDialog] := by
  have made : ∃ s, calls
      (fresh.startAt [.clearBackground, .dialog { text := "Hi" }, .hideWebLink, .unknown,
        .clearDialog] 1)
      [.tick .zero, .advance, .press 3, .advance, .advance] = .ok s ∧ s.2.player.index = 5 :=
    ⟨_, rfl, rfl⟩
  obtain ⟨s, hs, index⟩ := made
  obtain ⟨⟨told, ht, accounted, -⟩, -⟩ := dispatched_in_order hs
  refine ⟨s, told, hs, ht, ?_, ?_⟩
  · rw [accounted.numbers, index]
    rfl
  · rw [accounted.events, index]
    rfl

end VisualNovel.Playback
