import VisualNovel.Proofs.Lint.References
import VisualNovel.Proofs.Playback.Control
import VisualNovel.Proofs.Playback.Provenance
import VisualNovel.Proofs.Session.Fields

namespace VisualNovel

/-- A player that a host began, with the answer that the host goes on from. -/
inductive Playback.Hosted (r : Registry) : Progress × Playback → Prop where
  | begun {p : Playback} {key : String} {index : Nat} {m : Progress × Playback}
      (h : p.startNamed r key index = .ok m) : Hosted r m
  | called {g : Progress} {p : Playback} {c : Playback.Call} {m : Progress × Playback}
      (hosted : Hosted r (g, p)) (h : p.call c = .ok m) : Hosted r m
  /-- The host asks what is waited for. -/
  | asked {g : Progress} {p : Playback} (hosted : Hosted r (g, p)) : Hosted r (p.player.progress, p)
  | looked {g : Progress} {p : Playback} (hosted : Hosted r (g, p)) : Hosted r (g, p.looked)

namespace Playback.Hosted

variable {r : Registry} {m : Progress × Playback}

theorem controlled (h : Hosted r m) : Controlled m.2 := by
  induction h with
  | begun h =>
    obtain ⟨timeline, -, rfl⟩ := startNamed_ok h
    exact controlled_startAt _ timeline _
  | called hosted h ih => exact controlled_step ih (call_step h)
  | asked hosted ih => exact ih
  | looked hosted ih => exact ih.congr rfl rfl

/-- The player plays the timeline of its name. -/
theorem sourced_named (h : Hosted r m) :
    ∃ key timeline first, m.2.player.timelineKey = some key ∧ r.find? key = some timeline ∧
      Sourced timeline first m.2 := by
  induction h with
  | @begun p key index m h =>
    obtain ⟨timeline, found, rfl⟩ := startNamed_ok h
    exact ⟨key, timeline, index, startAt_timelineKey _ timeline index, found,
      sourced_startAt _ timeline index⟩
  | called hosted h ih =>
    obtain ⟨key, timeline, first, named, found, sourced⟩ := ih
    have step := call_step h
    exact ⟨key, timeline, first, (step_timelineKey step).trans named, found,
      sourced_step sourced step⟩
  | asked hosted ih => exact ih
  | looked hosted ih =>
    obtain ⟨key, timeline, first, named, found, sourced⟩ := ih
    exact ⟨key, timeline, first, named, found, sourced.congr rfl rfl rfl rfl⟩

theorem sourced (h : Hosted r m) :
    ∃ key timeline first, r.find? key = some timeline ∧ Sourced timeline first m.2 := by
  obtain ⟨key, timeline, first, -, found, sourced⟩ := h.sourced_named
  exact ⟨key, timeline, first, found, sourced⟩

theorem answer (h : Hosted r m) :
    m.1 = m.2.player.progress ∨ m.1 = .typing ∨ m.1 = .finished := by
  induction h with
  | begun h =>
    obtain ⟨timeline, -, rfl⟩ := startNamed_ok h
    exact .inl rfl
  | called hosted h ih => exact (call_step h).answer
  | asked hosted ih => exact .inl rfl
  | looked hosted ih => exact ih

theorem navigation {n : Navigation} {p : Playback} (h : Hosted r (.navigate n, p)) :
    p.player.navigation = some n := by
  obtain stored | typing | finished := h.answer
  · exact (h.controlled.navigation_iff n).2 stored.symm
  · cases typing
  · cases finished

end Playback.Hosted

/-- The timelines that a host may go on with behind an event. -/
inductive Event.LeadsTo : Event → String → Prop where
  | destination {e : Event} {key : String} (mem : key ∈ e.destinations)
      (named : key = "" → e = .timelineTransition key) : LeadsTo e key
  | main {jump : SceneJump} (main : jump.key = mainScene) :
      LeadsTo (.sceneTransition jump) ((Route.namedTimeline? jump.data).getD defaultTimeline)

/-- Some event of the registry leads to the timeline. -/
def Registry.LeadsTo (r : Registry) (key : String) : Prop := ∃ e, r.Lists e ∧ e.LeadsTo key

/-- Some event of the one timeline leads to the other. -/
def Registry.Leads (r : Registry) (name key : String) : Prop :=
  ∃ timeline e, r.find? name = some timeline ∧ e ∈ timeline ∧ e.LeadsTo key

theorem Playback.Hosted.leads {r : Registry} {n : Navigation} {p : Playback} {key : String}
    (h : Hosted r (.navigate n, p)) (route : Route.ofNavigation n = .restart key) :
    ∃ name, p.player.timelineKey = some name ∧ r.Leads name key := by
  obtain ⟨name, timeline, first, named, found, sourced⟩ := h.sourced_named
  refine ⟨name, named, timeline, ?_⟩
  cases n with
  | restart k =>
    obtain ⟨e, met, mem, unnamed⟩ := sourced.restart k h.navigation
    cases route
    exact ⟨e, found, met.mem, .destination mem unnamed⟩
  | scene scene data =>
    obtain ⟨-, last⟩ := sourced.scene scene data h.navigation
    simp only [Route.ofNavigation] at route
    split at route
    · next main =>
      cases route
      exact ⟨_, found, List.mem_of_getElem? last, .main main⟩
    · split at route <;> cases route

theorem Playback.Hosted.leadsTo {r : Registry} {n : Navigation} {p : Playback} {key : String}
    (h : Hosted r (.navigate n, p)) (route : Route.ofNavigation n = .restart key) :
    r.LeadsTo key := by
  obtain ⟨name, -, timeline, e, found, mem, leads⟩ := h.leads route
  exact ⟨e, ⟨name, timeline, found, mem⟩, leads⟩

namespace Session

/-- The host goes on with no timeline but those that the registry leads to. -/
structure Follows (r : Registry) (s : Session) : Prop where
  registry : s.registry = r
  restarts : ∀ key ∈ s.playback.restarts, r.LeadsTo key
  failure : ∀ e, s.result? = some (.error (.load e)) →
    ∃ key, e = .unknownTimeline key ∧ r.contains key = false ∧ r.LeadsTo key

/-- What holds of a session from its beginning to its end. -/
structure Hosts (r : Registry) (s : Session) : Prop extends Follows r s where
  hosted : s.result? = none → ∃ g, Playback.Hosted r (g, s.playback)

structure Next.Hosts (r : Registry) (n : Next) : Prop where
  session : n.1.Hosts r
  leadsTo : ∀ key, n.2 = some key → r.LeadsTo key

variable {r : Registry} {s t : Session} {g : Progress}

theorem Follows.moved (h : s.Follows r) (registry : t.registry = s.registry)
    (restarts : t.playback.restarts = s.playback.restarts)
    (failed : ∀ f, t.result? = some (.error f) → s.result? = some (.error f))
    (hosted : Playback.Hosted r (g, t.playback)) : t.Hosts r where
  registry := registry.trans h.registry
  restarts := by simpa only [restarts] using h.restarts
  failure := fun e failure => h.failure e (failed _ failure)
  hosted := fun _ => ⟨g, hosted⟩

theorem Follows.finish (h : s.Follows r) {result : Except Failure Outcome}
    (other : ∀ e, result ≠ .error (.load e)) : (s.finish result).Hosts r where
  registry := h.registry
  restarts := h.restarts
  failure := by
    intro e failed
    exact (other e (Option.some.inj failed)).elim
  hosted := by simp

theorem Follows.noteRestart (h : s.Follows r) {key : String} (leadsTo : r.LeadsTo key) :
    (s.noteRestart key).Follows r where
  registry := h.registry
  restarts := by
    rw [noteRestart_restarts]
    intro k mem
    obtain old | new := List.mem_append.1 mem
    · exact h.restarts k old
    · exact List.mem_singleton.1 new ▸ leadsTo
  failure := h.failure

theorem Follows.present (h : s.Follows r) (hosted : Playback.Hosted r (g, s.playback)) :
    Next.Hosts r (s.present g) := by
  obtain ⟨registry, playback, failed⟩ := present_kept s g
  constructor
  · refine h.moved registry ?_ failed (g := g) ?_
    · rw [playback, Playback.looked_restarts]
    · rw [playback]
      exact hosted.looked
  · intro key next
    obtain ⟨n, rfl, route⟩ := present_next next
    exact hosted.leadsTo route

theorem Follows.called (h : s.Follows r) {c : Playback.Call} {m : Progress × Playback}
    (hosted : Playback.Hosted r (g, s.playback)) (called : s.playback.call c = .ok m) :
    ({ s with playback := m.2 } : Session).Hosts r :=
  h.moved rfl (Playback.call_restarts called) (fun _ => id) (g := m.1) (hosted.called called)

theorem Follows.proceed (h : s.Follows r) (hosted : Playback.Hosted r (g, s.playback)) :
    Next.Hosts r (s.proceed g) := by
  unfold Session.proceed
  split
  · split
    · exact ⟨h.moved rfl rfl (by simp [result?]) (g := .typing) hosted.looked, by simp⟩
    · split
      · next progress playback ticked =>
        have called := h.called (c := .tick _) hosted ticked
        exact called.toFollows.present (hosted.called (c := .tick _) ticked)
      · exact ⟨h.finish (by simp), by simp⟩
  · exact h.present hosted

theorem Follows.activate (h : s.Follows r) {key : String}
    (leadsTo : r.contains key = false → r.LeadsTo key) (index : Nat) :
    Next.Hosts r (s.activate key index) := by
  have registry : s.renew.registry = r := h.registry
  unfold Session.activate
  cases started : s.renew.playback.startNamed s.renew.registry key index with
  | ok m =>
    simp only [started]
    rw [registry] at started
    have hosted : Playback.Hosted r m := .begun started
    obtain ⟨timeline, -, same⟩ := Playback.startNamed_ok started
    have restarts : m.2.restarts = s.playback.restarts := by
      rw [same, Playback.startAt_restarts]
      rfl
    have begun : ({ s.renew with playback := m.2 } : Session).Hosts r :=
      h.moved rfl restarts (fun _ => id) (g := m.1) hosted
    exact begun.toFollows.proceed hosted
  | error e =>
    simp only [started]
    rw [registry] at started
    obtain ⟨rfl, missing⟩ := Playback.startNamed_error started
    refine ⟨⟨⟨h.registry, h.restarts, ?_⟩, by simp⟩, by simp⟩
    intro e failure
    cases failure
    exact ⟨key, rfl, missing, leadsTo missing⟩

theorem Next.Hosts.follow {n : Next} (h : n.Hosts r) (patience : Nat) :
    (Session.follow patience n).Hosts r := by
  -- an activation may lead to the next one, but each of them keeps what holds
  induction patience generalizing n with
  | zero =>
    obtain ⟨s, next⟩ := n
    cases next with
    | none => exact h.session
    | some key => exact (h.session.toFollows.noteRestart (h.leadsTo key rfl)).finish (by simp)
  | succ patience ih =>
    obtain ⟨s, next⟩ := n
    cases next with
    | none => exact h.session
    | some key =>
      have leadsTo := h.leadsTo key rfl
      exact ih ((h.session.toFollows.noteRestart leadsTo).activate (fun _ => leadsTo) 0)

theorem Follows.printLines (h : s.Follows r) (lines : List String) :
    (s.printLines lines).Follows r := ⟨h.registry, h.restarts, h.failure⟩

theorem Follows.quit (h : s.Follows r) : s.quit.Hosts r :=
  (h.printLines ["Goodbye!"]).finish (by simp)

theorem Follows.pressButton (h : s.Follows r) (hosted : Playback.Hosted r (g, s.playback))
    (id : Nat) : Next.Hosts r (s.pressButton id) := by
  have called := h.called (c := .press id) hosted rfl
  have next : Playback.Hosted r (s.playback.press id) := hosted.called (c := .press id) rfl
  unfold Session.pressButton
  dsimp only
  split
  · split
    · exact (called.toFollows.printLines _).proceed next
    · exact called.toFollows.proceed next
  · exact called.toFollows.proceed next

theorem Follows.obey (h : s.Follows r) (hosted : Playback.Hosted r (g, s.playback))
    (reply : Reply) : Next.Hosts r (s.obey reply) := by
  cases reply with
  | quit => exact ⟨h.quit, by simp [Session.obey]⟩
  | advance =>
    have called := h.called (c := .advance) hosted rfl
    exact called.toFollows.proceed (hosted.called (c := .advance) rfl)
  | press id => exact h.pressButton hosted id
  | confirm =>
    simp only [Session.obey]
    split
    · exact h.pressButton hosted _
    · exact (h.printLines _).proceed hosted.asked
  | unknown text => exact (h.printLines _).proceed hosted.asked

theorem Hosts.feed (h : s.Hosts r) (line : Line) : (s.feed line).Hosts r := by
  unfold Session.feed
  split
  · next prompting =>
    obtain ⟨g, hosted⟩ := h.hosted (by simp [result?, prompting])
    cases line with
    | text content => exact (h.toFollows.obey hosted _).follow _
    | garbled => exact h.toFollows.finish (by simp)
  · exact h

theorem Hosts.endInput (h : s.Hosts r) : s.endInput.Hosts r := by
  unfold Session.endInput
  split
  · exact h.toFollows.quit
  · exact h

theorem Hosts.wake (h : s.Hosts r) (time : Duration) : (s.wake time).Hosts r := by
  unfold Session.wake
  split
  · next printed revealing =>
    obtain ⟨g, hosted⟩ := h.hosted (by simp [result?, revealing])
    split
    · exact h.toFollows.finish (by simp)
    · next progress playback ticked =>
      have called := (h.toFollows.called (c := .tick time) hosted ticked).toFollows
      have next : Playback.Hosted r (progress, playback) := hosted.called (c := .tick time) ticked
      dsimp only
      split
      · exact called.moved rfl rfl (by simp [result?]) (g := .typing) next
      · -- what was printed of the line is not told again
        refine (Follows.present ?_ ?_).follow _
        · exact ⟨called.registry, called.restarts, called.failure⟩
        · exact next.looked
  · exact h

theorem Hosts.takes (h : s.Hosts r) (inputs : List Input) : (s.takes inputs).Hosts r := by
  induction inputs generalizing s with
  | nil => exact h
  | cons input rest ih =>
    cases input with
    | line line => exact ih (h.feed line)
    | time time => exact ih (h.wake time)
    | closed => exact ih h.endInput

theorem hosts_start {config : Config} {options : Options} {streams : Nat → Random}
    (start : r.contains options.start = true) :
    (Session.start r config options streams).Hosts r := by
  obtain ⟨timeline, found⟩ := Option.isSome_iff_exists.1 start
  have got : r.get options.start = .ok timeline := by
    simp only [Registry.get, Registry.find?, found]
  have blank (s : Session) (registry : s.registry = r) (restarts : s.playback.restarts = [])
      (result : s.result? = none) : s.Follows r := by
    constructor <;> simp [registry, restarts, result]
  simp only [Session.start, got]
  exact ((blank _ rfl rfl rfl).activate (by simp [start]) _).follow _

end Session

end VisualNovel
