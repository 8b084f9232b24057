import VisualNovel.Proofs.Playback.Waiting
import VisualNovel.Proofs.Session.Fields

namespace VisualNovel

/-- The snapshot is a place of the registry at which a player waits. -/
def Registry.StopsAt (r : Registry) (s : Snapshot) : Prop :=
  ∃ key timeline e, s.timelineKey = some key ∧ r.find? key = some timeline ∧
    timeline[s.index]? = some e ∧ e.isStop = true

theorem Playback.Waiting.looked {r : Registry} {key : String} {p : Playback}
    (h : Waiting r key p) : Waiting r key p.looked :=
  h.congr rfl rfl rfl h.navigation h.waits

theorem Playback.Waiting.stopsAt {r : Registry} {key : String} {p : Playback}
    (h : Waiting r key p) : r.StopsAt p.resumePoint := by
  obtain ⟨timeline, e, found, -, -, last, stop⟩ := h.stopped
  refine ⟨key, timeline, e, h.named, found, ?_, stop⟩
  rw [resumePoint, if_pos h.waits]
  exact last

theorem Playback.callsTold_restarts {r t : Told} {cs : List Call} (h : callsTold r cs = .ok t) :
    t.1.2.restarts = r.1.2.restarts := by
  induction cs generalizing r with
  | nil =>
    cases h
    rfl
  | cons c rest ih =>
    obtain ⟨m, called, later⟩ := callsTold_cons.1 h
    have kept : m.1.2.restarts = r.1.2.restarts := call_restarts (call_of_callTold called)
    exact (ih later).trans kept

namespace Session

/-- A session on the registry in which lines appear at once. -/
structure Still (r : Registry) (s : Session) : Prop where
  registry : s.registry = r
  animate : s.options.animate = false

/-- The session asks for a line while its player waits, or it is over. -/
structure Awaits (r : Registry) (s : Session) : Prop extends Still r s where
  phase : (s.phase = .prompting ∧ ∃ key, Playback.Waiting r key s.playback) ∨
    ∃ result, s.phase = .over result ∧
      ∀ snapshot, result = .ok (.quit snapshot) → r.StopsAt snapshot

structure Next.Awaits (r : Registry) (n : Next) : Prop where
  still : n.1.Still r
  awaits : n.2 = none → n.1.Awaits r

variable {r : Registry} {s : Session} {key : String} {g : Progress}

theorem Still.finish (h : s.Still r) {result : Except Failure Outcome}
    (other : ∀ snapshot, result ≠ .ok (.quit snapshot)) : (s.finish result).Awaits r where
  registry := h.registry
  animate := h.animate
  phase := .inr ⟨result, rfl, fun snapshot quit => (other snapshot quit).elim⟩

theorem Awaits.next (h : s.Awaits r) : Next.Awaits r (s, none) := ⟨h.toStill, fun _ => h⟩

theorem present_options (s : Session) (g : Progress) : (s.present g).1.options = s.options := by
  obtain ⟨t, -, options, -, -, told⟩ := exists_told s
  unfold present
  dsimp only
  rw [← told]
  cases g with
  | navigate n =>
    simp only [route]
    split <;> exact options
  | _ => exact options

theorem present_prompts {s : Session} (waits : Playback.isWaiting g = true) :
    (s.present g).2 = none ∧ (s.present g).1.phase = .prompting := by
  cases g with
  | navigate n | ended | finished => cases waits
  | typing | waitInput | waitChoice | stalled => exact ⟨rfl, rfl⟩

theorem follow_present (patience : Nat) {s : Session} (waits : Playback.isWaiting g = true) :
    follow patience (s.present g) = (s.present g).1 := by
  have last : (s.present g).2 = none := (present_prompts waits).1
  rw [show s.present g = ((s.present g).1, none) from Prod.ext rfl last, follow_none]

theorem Still.present (h : s.Still r) (answered : Playback.Answered r key g s.playback) :
    Next.Awaits r (s.present g) := by
  obtain ⟨registry, playback, -⟩ := present_kept s g
  have still : (s.present g).1.Still r :=
    ⟨registry.trans h.registry, by rw [present_options, h.animate]⟩
  refine ⟨still, fun none => ⟨still, ?_⟩⟩
  obtain rfl | ⟨n, rfl⟩ | ⟨waits, waiting⟩ := answered
  · exact .inr ⟨_, rfl, by simp⟩
  · -- a navigation that leads to no timeline ends the session
    simp only [Session.present, route] at none ⊢
    split at none
    · cases none
    · exact .inr ⟨_, rfl, by simp⟩
    · exact .inr ⟨_, rfl, by simp⟩
  · refine .inl ⟨(present_prompts waits).2, key, ?_⟩
    rw [playback]
    exact waiting.looked

theorem Still.proceed (h : s.Still r) (answered : Playback.Answered r key g s.playback) :
    Next.Awaits r (s.proceed g) := by
  unfold Session.proceed
  split
  · rw [if_neg (by simp [h.animate])]
    obtain ended | ⟨n, navigates⟩ | ⟨-, waiting⟩ := answered
    · cases ended
    · cases navigates
    · split
      · next progress playback ticked =>
        obtain ⟨waits, waiting, -⟩ := waiting.ticked ticked
        have next : ({ s with playback } : Session).Still r := ⟨h.registry, h.animate⟩
        exact next.present (.inr (.inr ⟨waits, waiting⟩))
      · exact (h.finish (by simp)).next
  · exact h.present answered

theorem Still.renew (h : s.Still r) : s.renew.Still r := ⟨h.registry, h.animate⟩

theorem Still.activate (h : s.Still r) (key : String) (index : Nat) :
    Next.Awaits r (s.activate key index) := by
  have registry : s.renew.registry = r := h.registry
  unfold Session.activate
  cases started : s.renew.playback.startNamed s.renew.registry key index with
  | ok m =>
    simp only [started]
    rw [registry] at started
    obtain ⟨timeline, found, rfl⟩ := Playback.startNamed_ok started
    obtain ⟨p, ready, -, name, start⟩ := Playback.startAtTold_ready
      { s.renew.playback with player.timelineKey := some key } timeline index
    have begun := congrArg Prod.fst start
    rw [Playback.startAtTold_fst] at begun
    rw [begun]
    have answered : Playback.Answered r key p.run.1 (p.run.2.settle p.run.1).2 :=
      Playback.run_answered found name ready.timeline ready.navigation rfl
    have next : ({ s.renew with playback := (p.run.2.settle p.run.1).2 } : Session).Still r :=
      ⟨h.registry, h.animate⟩
    exact next.proceed answered
  | error e =>
    simp only [started]
    exact (h.renew.finish (by simp)).next

theorem Still.noteRestart (h : s.Still r) (key : String) : (s.noteRestart key).Still r :=
  ⟨h.registry, h.animate⟩

theorem Next.Awaits.follow {n : Next} (h : n.Awaits r) (patience : Nat) :
    (Session.follow patience n).Awaits r := by
  induction patience generalizing n with
  | zero =>
    obtain ⟨s, next⟩ := n
    cases next with
    | none => exact h.awaits rfl
    | some key => exact (h.still.noteRestart key).finish (by simp)
  | succ patience ih =>
    obtain ⟨s, next⟩ := n
    cases next with
    | none => exact h.awaits rfl
    | some key => exact ih ((h.still.noteRestart key).activate key 0)

theorem Still.quit (h : s.Still r) (waiting : Playback.Waiting r key s.playback) :
    s.quit.Awaits r where
  registry := h.registry
  animate := h.animate
  phase := by
    refine .inr ⟨_, rfl, ?_⟩
    intro snapshot same
    cases same
    exact waiting.stopsAt

theorem Still.pressButton (h : s.Still r) (waiting : Playback.Waiting r key s.playback)
    (id : Nat) : Next.Awaits r (s.pressButton id) := by
  have answered := waiting.step (Playback.press_step s.playback id)
  have next : ({ s with playback := (s.playback.press id).2 } : Session).Still r :=
    ⟨h.registry, h.animate⟩
  unfold Session.pressButton
  dsimp only
  split
  · split
    · exact Still.proceed ⟨h.registry, h.animate⟩ answered
    · exact next.proceed answered
  · exact next.proceed answered

theorem Still.obey (h : s.Still r) (waiting : Playback.Waiting r key s.playback)
    (reply : Reply) : Next.Awaits r (s.obey reply) := by
  have again : Playback.Answered r key s.playback.player.progress s.playback :=
    .inr (.inr ⟨waiting.waits, waiting⟩)
  cases reply with
  | quit => exact (h.quit waiting).next
  | advance =>
    have next : ({ s with playback := s.playback.advance.2 } : Session).Still r :=
      ⟨h.registry, h.animate⟩
    exact next.proceed (waiting.step (Playback.advance_step s.playback))
  | press id => exact h.pressButton waiting id
  | confirm =>
    simp only [Session.obey]
    split
    · exact h.pressButton waiting _
    · exact Still.proceed ⟨h.registry, h.animate⟩ again
  | unknown text => exact Still.proceed ⟨h.registry, h.animate⟩ again

theorem Awaits.feed (h : s.Awaits r) (line : Line) : (s.feed line).Awaits r := by
  obtain ⟨prompting, key, waiting⟩ | ⟨result, ended, -⟩ := h.phase
  · simp only [Session.feed, prompting]
    cases line with
    | text content => exact (h.toStill.obey waiting _).follow _
    | garbled => exact h.toStill.finish (by simp)
  · simpa only [Session.feed, ended] using h

theorem Awaits.endInput (h : s.Awaits r) : s.endInput.Awaits r := by
  obtain ⟨prompting, key, waiting⟩ | ⟨result, ended, -⟩ := h.phase
  · simpa only [Session.endInput, prompting] using h.toStill.quit waiting
  · simpa only [Session.endInput, ended] using h

theorem watch_prompting (prompting : s.phase = .prompting) : s.watch = s := by
  unfold watch
  cases s.playback.player.reveal.elim 0 Reveal.charCount with
  | zero => rfl
  | succ count => simp only [watchFor, prompting]

theorem Awaits.watch (h : s.Awaits r) : s.watch = s := by
  obtain ⟨prompting, -⟩ | ⟨result, ended, -⟩ := h.phase
  · exact watch_prompting prompting
  · unfold Session.watch
    cases s.playback.player.reveal.elim 0 Reveal.charCount with
    | zero => rfl
    | succ count => simp only [watchFor, ended]

theorem Awaits.play (h : s.Awaits r) (lines : List Line) : (s.play lines).Awaits r := by
  have fed : ∀ s : Session, s.Awaits r →
      (lines.foldl (fun s line => (s.feed line).watch) s).Awaits r := by
    induction lines with
    | nil => exact fun s h => h
    | cons line rest ih =>
      intro s h
      have watched : (s.feed line).watch.Awaits r := by
        rw [(h.feed line).watch]
        exact h.feed line
      exact ih _ watched
  rw [Session.play, h.watch]
  exact (fed s h).endInput

theorem awaits_start {config : Config} {options : Options} {streams : Nat → Random}
    (still : options.animate = false) : (Session.start r config options streams).Awaits r := by
  have blank (s : Session) (registry : s.registry = r) (same : s.options = options) : s.Still r :=
    ⟨registry, by rw [same, still]⟩
  unfold Session.start
  dsimp only
  split
  · exact (blank _ rfl rfl).finish (by simp)
  · exact ((blank _ rfl rfl).activate _ _).follow _

/-- A line is asked for at a stop. Where the stop is a line that has begun to appear, it is completed
first, at once. -/
theorem proceed_stop (still : s.options.animate = false) (waits : Playback.isWaiting g = true)
    (waiting : Playback.Waiting r key s.playback)
    (begun : g = .typing → ∃ reveal, s.playback.player.reveal = some reveal ∧ reveal.elapsed = .zero)
    (told : List (Nat × Event)) :
    ∃ cs t, Playback.callsTold ((g, s.playback), told) cs = .ok (t, told) ∧
      Playback.Waiting r key t.2 ∧ t.2.player.index = s.playback.player.index ∧
      (s.proceed g).2 = none ∧ (s.proceed g).1.phase = .prompting ∧
      (s.proceed g).1.playback = t.2.looked := by
  by_cases typing : g = .typing
  · subst typing
    obtain ⟨reveal, shown, elapsed⟩ := begun rfl
    obtain ⟨⟨g, q⟩, ticked⟩ := Playback.tick_begun shown elapsed (remainingTime s.playback)
    obtain ⟨waits, waiting, place⟩ := waiting.ticked ticked
    refine ⟨[.tick (remainingTime s.playback)], (g, q), ?_, waiting, place, ?_⟩
    · refine Playback.callsTold_cons.2 ⟨((g, q), []), ?_, by rw [List.append_nil]; rfl⟩
      simp only [Playback.callTold, ticked]
      rfl
    · simp only [proceed, still, ticked, Bool.false_eq_true, if_false]
      exact ⟨(present_prompts waits).1, (present_prompts waits).2, (present_kept _ g).2.1⟩
  · refine ⟨[], (g, s.playback), rfl, waiting, rfl, ?_⟩
    have presented : s.proceed g = s.present g := by
      unfold proceed
      split
      · exact (typing rfl).elim
      · rfl
    rw [presented]
    exact ⟨(present_prompts waits).1, (present_prompts waits).2, (present_kept _ g).2.1⟩

/-- The timeline is begun at a stop: that event is carried out and no other, and a line is asked
for. -/
theorem activate_stop {timeline : Timeline} {index : Nat} {e : Event}
    (found : s.registry.find? key = some timeline) (there : timeline[index]? = some e)
    (stop : e.isStop = true) (still : s.options.animate = false) :
    ∃ cs t, Playback.callsTold
        ({ s.renew.playback with player.timelineKey := some key }.startAtTold timeline index) cs =
          .ok (t, [(index, e)]) ∧
      Playback.Waiting s.registry key t.2 ∧ t.2.player.index = index + 1 ∧
      (s.activate key index).2 = none ∧ (s.activate key index).1.phase = .prompting ∧
      (s.activate key index).1.playback = t.2.looked := by
  generalize hp : { s.renew.playback with player.timelineKey := some key } = p
  have named : p.player.timelineKey = some key := by rw [← hp]
  obtain ⟨waits, waiting, place⟩ := Playback.startAt_waiting found named there stop
  obtain ⟨m, -, -, start, told⟩ := Playback.startAt_stop p there stop
  have began : p.startAtTold timeline index = (p.startAt timeline index, [(index, e)]) :=
    Prod.ext (Playback.startAtTold_fst p timeline index) told
  have activated : s.activate key index =
      ({ s.renew with playback := (p.startAt timeline index).2 } : Session).proceed
        (p.startAt timeline index).1 := by
    have registry : s.renew.registry = s.registry := rfl
    simp only [Session.activate, Playback.startNamed, Registry.get, registry, found, hp]
    rfl
  have begun (typing : (p.startAt timeline index).1 = .typing) :
      ∃ reveal, (p.startAt timeline index).2.player.reveal = some reveal ∧
        reveal.elapsed = .zero := by
    rw [start] at typing ⊢
    exact Playback.block_typing typing
  rw [activated, began, ← place]
  exact proceed_stop (s := { s.renew with playback := (p.startAt timeline index).2 }) still waits
    waiting begun _

def firstPlayer (config : Config) (key : String) (unseeded : Random) : Playback :=
  { Playback.ofConfig config (Surface.ofCanvas config.canvas).reset unseeded with
    player.timelineKey := some key }

/-- The only activation of a session that starts at a stop is the first one. -/
theorem start_stop {config : Config} {options : Options} {streams : Nat → Random}
    {timeline : Timeline} {index : Nat} {e : Event}
    (found : r.find? options.start = some timeline) (there : timeline[index]? = some e)
    (stop : e.isStop = true) (place : options.index = some index)
    (still : options.animate = false) :
    ∃ cs t, Playback.callsTold
        ((firstPlayer config options.start (streams 0)).startAtTold timeline index) cs =
          .ok (t, [(index, e)]) ∧
      Playback.Waiting r options.start t.2 ∧ t.2.player.index = index + 1 ∧
      (start r config options streams).phase = .prompting ∧
      (start r config options streams).playback = t.2.looked := by
  have got : r.get options.start = .ok timeline := by simp only [Registry.get, found]
  let s : Session := Session.printLines
    { registry := r, config, options, playback := .ofConfig config (.ofCanvas config.canvas),
      streams } controls
  obtain ⟨cs, t, told, waiting, stands, last, prompting, playback⟩ :=
    activate_stop (s := s) found there stop still
  have started : start r config options streams = (s.activate options.start index).1 := by
    have pair : s.activate options.start index = ((s.activate options.start index).1, none) :=
      Prod.ext rfl last
    simp only [start, got, place, Option.getD_some]
    rw [pair]
    rfl
  exact ⟨cs, t, told, waiting, stands, started ▸ prompting, started ▸ playback⟩

theorem quit_stopsAt {config : Config} {options : Options} {lines : List Line}
    {streams : Nat → Random} {snapshot : Snapshot} (still : options.animate = false)
    (quit : (run r config options lines streams).result? = some (.ok (.quit snapshot))) :
    r.StopsAt snapshot := by
  have awaits : (run r config options lines streams).Awaits r := (awaits_start still).play lines
  obtain ⟨prompting, -⟩ | ⟨result, ended, stops⟩ := awaits.phase
  · simp only [result?, prompting] at quit
    cases quit
  · simp only [result?, ended] at quit
    exact stops snapshot (Option.some.inj quit)

/-- A session that is quit can be brought back: the snapshot names a stop in a timeline of the
registry, a session that starts there carries out that event and no other before it asks for a line,
and when nobody answers it is quit at the same place. -/
theorem quit_resumes {config : Config} {options : Options} {lines : List Line}
    {streams : Nat → Random} {snapshot : Snapshot} (still : options.animate = false)
    (quit : (run r config options lines streams).result? = some (.ok (.quit snapshot))) :
    ∃ key timeline e, snapshot.timelineKey = some key ∧ r.find? key = some timeline ∧
      snapshot.index < timeline.length ∧ timeline[snapshot.index]? = some e ∧
      e.isBlocking = true ∧ e.isTransition = false ∧
      ∀ (again : Options) (streams : Nat → Random), again.start = key →
        again.index = some snapshot.index → again.animate = false →
        (∃ cs t, Playback.callsTold
            ((firstPlayer config key (streams 0)).startAtTold timeline snapshot.index) cs =
              .ok (t, [(snapshot.index, e)]) ∧
          (start r config again streams).playback = t.2.looked) ∧
        (start r config again streams).phase = .prompting ∧
        (start r config again streams).playback.restarts = [] ∧
        (config.log.allows .engine = true →
          (start r config again streams).playback.recorded Log.Entry.dispatch? =
            [(snapshot.index, e.tag)]) ∧
        (run r config again [] streams).result? = some (.ok (.quit snapshot)) := by
  obtain ⟨key, timeline, e, named, found, there, stop⟩ := quit_stopsAt still quit
  have isStop := stop
  simp only [Event.isStop, Bool.and_eq_true, Bool.not_eq_true'] at isStop
  refine ⟨key, timeline, e, named, found, (List.getElem?_eq_some_iff.1 there).1, there,
    isStop.1, isStop.2, ?_⟩
  intro again streams rfl place off
  obtain ⟨cs, t, told, waiting, stands, prompting, playback⟩ :=
    @start_stop r config again streams timeline _ e found there stop place off
  refine ⟨⟨cs, t, told, playback⟩, prompting, ?_, ?_, ?_⟩
  · rw [playback, Playback.looked_restarts, Playback.callsTold_restarts told,
      Playback.startAtTold_fst]
    exact Playback.startAt_restarts _ timeline snapshot.index
  · intro kept
    rw [playback]
    exact Playback.dispatches_recorded told kept
  · have point : t.2.looked.resumePoint = snapshot := by
      rw [Playback.resumePoint, if_pos waiting.looked.waits, waiting.looked.named]
      simp [Playback.looked, stands, ← named]
    rw [run, play, watch_prompting prompting, List.foldl_nil, endInput, prompting]
    simp [Session.quit, playback, point]

/-- A gate that leads to a line in another timeline. -/
def twoRooms : Registry :=
  (Registry.insert {} "intro" [.choice [⟨"Go", "hall"⟩]]).insert "hall"
    [.clearBackground, .dialog { text := "Hi" }, .clearDialog]

/-- The line is shown again in a session that starts with it. -/
theorem quit_resumes_line :
    (run twoRooms .default { start := "intro", animate := false } [.text "1", .text "q"]).result? =
        some (.ok (.quit ⟨some "hall", 1⟩)) ∧
      (run twoRooms .default { start := "hall", index := some 1, animate := false } []).result? =
        some (.ok (.quit ⟨some "hall", 1⟩)) := by
  have quit : (run twoRooms .default { start := "intro", animate := false }
      [.text "1", .text "q"]).result? = some (.ok (.quit ⟨some "hall", 1⟩)) := rfl
  obtain ⟨key, timeline, e, named, -, -, -, -, -, resumes⟩ := quit_resumes rfl quit
  cases named
  obtain ⟨-, -, -, -, again⟩ :=
    resumes { start := "hall", index := some 1, animate := false } (fun _ => .ofSeed 0) rfl rfl rfl
  exact ⟨quit, again⟩

end Session

end VisualNovel
