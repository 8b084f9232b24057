import VisualNovel.Proofs.Playback.Course
import VisualNovel.Proofs.Session.Patience

namespace VisualNovel.Session

open Playback (Nearing)
open Dump (Stop)

/-- A session that has not left its first timeline, and in which lines appear at once. -/
structure First (key : String) (s : Session) : Prop where
  animate : s.options.animate = false
  named : s.playback.player.timelineKey = some key
  unrestarted : s.playback.restarts = []

/-- The session asks for a line, and its player is on its course. -/
structure Underway (timeline : Timeline) (key : String) (target : Nat × Stop) (bound : Nat)
    (s : Session) : Prop extends First key s where
  prompting : s.phase = .prompting
  paused : s.playback.Paused timeline
  course : s.playback.course timeline = target
  cost : s.playback.cost timeline < bound

/-- What becomes of a session when its player comes to a stop in its first timeline. -/
inductive AtStop (key : String) (index : Nat) : Stop → Session → Prop where
  | ended {s : Session} (phase : s.phase = .over (.ok (.ended ⟨some key, index⟩))) :
      AtStop key index .ended s
  | gate {s : Session} (first : s.First key) (prompting : s.phase = .prompting)
      (gated : s.playback.Gated) (place : s.playback.player.index = index) :
      AtStop key index .gate s
  | restart {n : Navigation} {next : String} {s : Session}
      (leads : Route.ofNavigation n = .restart next)
      (first : s.playback.restarts.head? = some next) : AtStop key index (.navigate n) s
  | ending {n : Navigation} {s : Session} (leads : Route.ofNavigation n = .ending)
      (phase : s.phase = .over (.ok .ending)) : AtStop key index (.navigate n) s
  | exit {n : Navigation} {name : String} {data : Option Json} {s : Session}
      (leads : Route.ofNavigation n = .exit name data)
      (phase : s.phase = .over (.ok (.scene name data))) : AtStop key index (.navigate n) s

variable {timeline : Timeline} {key : String} {target : Nat × Stop} {bound : Nat} {s : Session}
  {g : Progress}

theorem follow_some_head? (patience : Nat) {s : Session} (unrestarted : s.playback.restarts = [])
    (next : String) : (follow patience (s, some next)).playback.restarts.head? = some next := by
  rw [follow_restarts, unrestarted]
  cases patience <;> rfl

theorem First.present (first : s.First key) (g : Progress) : (s.present g).1.First key := by
  obtain ⟨-, playback, -⟩ := present_kept s g
  refine ⟨?_, ?_, ?_⟩
  · rw [present_options, first.animate]
  · rw [playback]; exact first.named
  · rw [playback]; exact first.unrestarted

theorem present_underway (patience : Nat) (first : s.First key) (goes : Dump.stop? g = none)
    (paused : s.playback.Paused timeline) (cost : s.playback.cost timeline < bound) :
    Underway timeline key (s.playback.course timeline) bound (follow patience (s.present g)) := by
  have waits : Playback.isWaiting g = true := by
    cases g <;> first | rfl | cases goes
  obtain ⟨-, playback, -⟩ := present_kept s g
  rw [follow_present patience waits]
  refine ⟨first.present g, (present_prompts waits).2, ?_, ?_, ?_⟩
  · rw [playback]; exact ⟨paused.plays, paused.navigation, paused.enabled⟩
  · rw [playback]; rfl
  · rw [playback]; exact cost

theorem present_atStop (patience : Nat) (first : s.First key) {stop : Stop}
    (stopped : Dump.stop? g = some stop) (gated : g = .waitChoice → s.playback.Gated) :
    AtStop key s.playback.player.index stop (follow patience (s.present g)) := by
  have snapshot : s.playback.snapshot = ⟨some key, s.playback.player.index⟩ := by
    rw [Playback.snapshot, first.named]
  cases g with
  | typing | waitInput | stalled => cases stopped
  | waitChoice =>
    cases stopped
    obtain ⟨-, playback, -⟩ := present_kept s .waitChoice
    obtain ⟨navigation, disabled, progress⟩ := gated rfl
    rw [follow_present patience rfl]
    refine .gate (first.present _) (present_prompts rfl).2 ?_ ?_
    · rw [playback]; exact ⟨navigation, disabled, progress⟩
    · rw [playback]; rfl
  | ended | finished =>
    cases stopped
    refine .ended ?_
    rw [← snapshot]
    simp only [Session.present, follow_none]
    split <;> rfl
  | navigate n =>
    cases stopped
    have told := first.present (.navigate n)
    cases leads : Route.ofNavigation n with
    | restart next =>
      have goes : s.present (.navigate n) = ((s.present (.navigate n)).1, some next) := by
        simp only [Session.present, route, leads]
      rw [goes]
      exact .restart leads (follow_some_head? patience told.unrestarted next)
    | ending =>
      refine .ending leads ?_
      simp only [Session.present, route, leads, follow_none]
      rfl
    | exit name data =>
      refine .exit leads ?_
      simp only [Session.present, route, leads, follow_none]
      rfl

/-- After a step the session is at the stop, or on its way there; a line is shown at once, as far as
its time can be told. -/
theorem proceed_nearing (patience : Nat) (first : s.First key)
    (near : Nearing timeline target bound (g, s.playback)) :
    AtStop key target.1 target.2 (follow patience (s.proceed g)) ∨
      Underway timeline key target bound (follow patience (s.proceed g)) := by
  cases near with
  | stopped stop index gated =>
    have other : g ≠ .typing := by
      rintro rfl
      cases stop
    rw [proceed_eq_present other, ← index]
    exact .inl (present_atStop patience first stop gated)
  | paused goes paused course cost begun =>
    refine .inr ?_
    subst course
    unfold proceed
    split
    · obtain ⟨reveal, shown, fresh⟩ := begun rfl
      obtain ⟨⟨g, q⟩, ticked⟩ := Playback.tick_begun shown fresh (remainingTime s.playback)
      obtain ⟨goes, later, course, less⟩ := Playback.tick_paused paused shown ticked
      have next : ({ s with playback := q } : Session).First key := by
        refine ⟨first.animate, ?_, ?_⟩
        · exact (Playback.step_timelineKey (Playback.tick_step ticked)).trans first.named
        · exact (Playback.call_restarts (c := .tick _) ticked).trans first.unrestarted
      rw [if_neg (by simp [first.animate])]
      simp only [ticked]
      rw [← course]
      exact present_underway patience next goes later (Nat.lt_of_le_of_lt less cost)
    · exact present_underway patience first goes paused cost

/-- A line that lets the pointer go down. -/
def Line.IsBlank : Line → Prop
  | .text content => Reply.ofLine content = .advance
  | .garbled => False

theorem feed_blank {line : Line} (blank : line.IsBlank) (prompting : s.phase = .prompting) :
    s.feed line = follow (maxIdleRestarts + 1)
      (({ s with playback := s.playback.advance.2 } : Session).proceed s.playback.advance.1) := by
  cases line with
  | garbled => cases blank
  | text content =>
    have advances : Reply.ofLine content = .advance := blank
    simp only [feed, prompting, advances, obey]

theorem First.advance (first : s.First key) :
    ({ s with playback := s.playback.advance.2 } : Session).First key := by
  refine ⟨first.animate, ?_, ?_⟩
  · exact (Playback.step_timelineKey (Playback.advance_step s.playback)).trans first.named
  · exact (Playback.call_restarts (c := .advance) rfl).trans first.unrestarted

theorem Underway.feed (under : s.Underway timeline key target bound) {line : Line}
    (blank : line.IsBlank) :
    AtStop key target.1 target.2 (s.feed line) ∨
      Underway timeline key target (s.playback.cost timeline) (s.feed line) := by
  have near := Playback.advance_nearing under.paused
  rw [under.course] at near
  rw [feed_blank blank under.prompting]
  exact proceed_nearing _ under.toFirst.advance near

theorem AtStop.feed {index : Nat} {stop : Stop} (there : AtStop key index stop s) {line : Line}
    (blank : line.IsBlank) : AtStop key index stop (s.feed line) := by
  cases there with
  | ended phase =>
    have unread : s.feed line = s := by simp only [Session.feed, phase]
    exact unread.symm ▸ .ended phase
  | ending leads phase =>
    have unread : s.feed line = s := by simp only [Session.feed, phase]
    exact unread.symm ▸ .ending leads phase
  | exit leads phase =>
    have unread : s.feed line = s := by simp only [Session.feed, phase]
    exact unread.symm ▸ .exit leads phase
  | restart leads first =>
    refine .restart leads ?_
    rw [feed_restarts, List.head?_append, first]
    rfl
  | gate first prompting gated place =>
    obtain ⟨waits, still, cursor⟩ := gated.advance
    have index : s.playback.advance.2.player.index = s.playback.player.index :=
      congrArg Snapshot.index cursor
    rw [feed_blank blank prompting, waits, ← place, ← index]
    exact present_atStop (g := .waitChoice) _ first.advance rfl fun _ => still

theorem AtStop.feedAll {index : Nat} {stop : Stop} (there : AtStop key index stop s)
    {lines : List Line} (blank : ∀ line ∈ lines, line.IsBlank) :
    AtStop key index stop (lines.foldl Session.feed s) := by
  induction lines generalizing s with
  | nil => exact there
  | cons line rest ih =>
    rw [List.forall_mem_cons] at blank
    exact ih (there.feed blank.1) blank.2

theorem Underway.feedAll (under : s.Underway timeline key target bound) {lines : List Line}
    (blank : ∀ line ∈ lines, line.IsBlank) (enough : bound ≤ lines.length) :
    AtStop key target.1 target.2 (lines.foldl Session.feed s) := by
  induction lines generalizing s bound with
  | nil =>
    have cost := under.cost
    rw [List.length_nil] at enough
    omega
  | cons line rest ih =>
    rw [List.forall_mem_cons] at blank
    have cost := under.cost
    rw [List.length_cons] at enough
    obtain there | under := under.feed blank.1
    · exact there.feedAll blank.2
    · exact ih under blank.2 (by omega)

theorem start_nearing {registry : Registry} {config : Config} {options : Options}
    {streams : Nat → Random} {timeline : Timeline}
    (found : registry.find? options.start = some timeline) (beginning : options.index = none)
    (still : options.animate = false) :
    AtStop options.start (stopFrom 0 timeline).1 (stopFrom 0 timeline).2
        (start registry config options streams) ∨
      Underway timeline options.start (stopFrom 0 timeline) (2 * timeline.length)
        (start registry config options streams) := by
  let s : Session := Session.printLines
    { registry, config, options, playback := .ofConfig config (.ofCanvas config.canvas), streams }
    controls
  let p : Playback := { s.renew.playback with player.timelineKey := some options.start }
  let t : Session := { s.renew with playback := (p.startAt timeline 0).2 }
  have first : t.First options.start :=
    ⟨still, Playback.startAt_timelineKey p timeline 0, Playback.startAt_restarts p timeline 0⟩
  have started : start registry config options streams =
      follow maxIdleRestarts (t.proceed (p.startAt timeline 0).1) := by
    have got : registry.get options.start = .ok timeline := by simp only [Registry.get, found]
    have here : s.renew.registry.get options.start = .ok timeline := got
    have activated : s.activate options.start 0 = t.proceed (p.startAt timeline 0).1 := by
      simp only [activate, Playback.startNamed, here]
      rfl
    simp only [start, got, beginning, Option.getD_none]
    exact congrArg (follow maxIdleRestarts) activated
  rw [started]
  exact proceed_nearing maxIdleRestarts first (Playback.startAt_nearing p timeline 0)

/-- What is reported of a run that nobody watches is what becomes of the session. -/
def Agrees (report : Dump.Report) (s : Session) : Prop :=
  match report.stopped with
  | .ended => s.result? = some (.ok (.ended report.cursor))
  | .gate => ∃ index, report.cursor.index = index + 1 ∧
    s.result? = some (.ok (.quit ⟨report.cursor.timelineKey, index⟩))
  | .navigate n =>
    match Route.ofNavigation n with
    | .restart key => s.playback.restarts.head? = some key
    | .ending => s.result? = some (.ok .ending)
    | .exit name data => s.result? = some (.ok (.scene name data))

theorem AtStop.agrees {index : Nat} {stop : Stop} (there : AtStop key index stop s)
    (behind : stop = .gate → 0 < index) {report : Dump.Report}
    (cursor : report.cursor = ⟨some key, index⟩) (stopped : report.stopped = stop) :
    Agrees report s.endInput := by
  unfold Agrees
  rw [stopped, cursor]
  cases there with
  | ended phase => simp only [endInput, phase, result?]
  | restart leads first =>
    simp only [leads, endInput_restarts]
    exact first
  | ending leads phase => simp only [leads, endInput, phase, result?]
  | exit leads phase => simp only [leads, endInput, phase, result?]
  | gate first prompting gated place =>
    obtain ⟨before, rfl⟩ := Nat.exists_eq_succ_of_ne_zero (Nat.ne_of_gt (behind rfl))
    have point : s.playback.resumePoint = ⟨some key, before⟩ := by
      rw [Playback.resumePoint, if_pos (by rw [gated.progress]; rfl), first.named, place]
      rfl
    refine ⟨before, rfl, ?_⟩
    rw [endInput, prompting]
    simp [quit, point]

/-- Without anybody to answer, a session goes the way of a run that nobody watches: it ends where the
run ends, it is quit at the gate where the run stops, it leaves for the same scene, and its first
restart is the one that the run asks for. Each event takes no more than two blank lines. -/
theorem agrees_with_dump {registry : Registry} {config : Config} {options : Options}
    {timeline : Timeline} (found : registry.find? options.start = some timeline)
    (beginning : options.index = none) (still : options.animate = false) {lines : List Line}
    (blank : ∀ line ∈ lines, line.IsBlank) (enough : 2 * timeline.length ≤ lines.length)
    (stream : Random) (streams : Nat → Random) :
    ∃ report, Dump.run registry config options.start stream = .ok report ∧
      Agrees report (run registry config options lines streams) := by
  obtain ⟨report, ran, cursor, stopped⟩ := Dump.run_course found config stream
  have awaits : (start registry config options streams).Awaits registry := awaits_start still
  have there : AtStop options.start (stopFrom 0 timeline).1 (stopFrom 0 timeline).2
      (lines.foldl feed (start registry config options streams)) := by
    obtain there | under := @start_nearing registry config options streams timeline found beginning
      still
    · exact there.feedAll blank
    · exact under.feedAll blank enough
  have behind (gate : (stopFrom 0 timeline).2 = .gate) : 0 < (stopFrom 0 timeline).1 :=
    lt_stopFrom 0 (by rw [gate]; exact Stop.noConfusion)
  refine ⟨report, ran, ?_⟩
  rw [run, awaits.play_eq]
  exact there.agrees behind cursor stopped

/-- An empty gate, an empty line and an event without meaning on the way to a gate. -/
def corridor : Registry :=
  Registry.insert {} "start" [.choice [], .dialog { text := "" }, .dialog { text := "Hi" },
    .unknown, .choice [⟨"Go", "start"⟩]]

theorem corridor_agrees : ∃ report, Dump.run corridor .default "start" = .ok report ∧
    report.stopped = .gate ∧ report.cursor = ⟨some "start", 5⟩ ∧
    (run corridor .default { animate := false } (List.replicate 10 (.text ""))).result? =
      some (.ok (.quit ⟨some "start", 4⟩)) := by
  obtain ⟨report, ran, agrees⟩ := @agrees_with_dump corridor .default { animate := false } _ rfl
    rfl rfl (List.replicate 10 (.text "")) (fun line mem => List.eq_of_mem_replicate mem ▸ rfl)
    (by decide) (.ofSeed 0) (fun _ => .ofSeed 0)
  have facts : (Dump.run corridor .default "start").map (fun r => (r.stopped, r.cursor)) =
      .ok (.gate, ⟨some "start", 5⟩) := rfl
  have ran : Dump.run corridor .default "start" = .ok report := ran
  rw [ran] at facts
  obtain ⟨stopped, cursor⟩ := Prod.mk.inj (Except.ok.inj facts)
  unfold Agrees at agrees
  rw [stopped, cursor] at agrees
  obtain ⟨index, behind, quit⟩ := agrees
  cases behind
  exact ⟨report, ran, stopped, cursor, quit⟩

end VisualNovel.Session
