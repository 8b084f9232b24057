import VisualNovel.Proofs.Session.Hosting

/-!
Sessions over a registry that is told to have no errors. The host finds each timeline that a gate or
a named transition leads to. The main scene is a matter of the host, and not of the checks: whether
the timeline in its data is there is not looked at.
-/

namespace VisualNovel

/-- The timelines that are gone on with without a check: the one without a name, and those that the
main scene begins with. -/
inductive Registry.Unchecked (r : Registry) : String → Prop where
  | unnamed (listed : r.Lists (.timelineTransition "")) : Unchecked r ""
  | main {jump : SceneJump} (listed : r.Lists (.sceneTransition jump))
      (main : jump.key = mainScene) :
      Unchecked r ((Route.namedTimeline? jump.data).getD defaultTimeline)

theorem Registry.LeadsTo.contains_or_unchecked {r : Registry} {key : String} (h : r.LeadsTo key)
    (clean : (Lint.check {} r).hasErrors = false) : r.contains key = true ∨ r.Unchecked key := by
  obtain ⟨e, listed, leads⟩ := h
  cases leads with
  | main main => exact .inr (.main listed main)
  | destination mem named =>
    by_cases empty : key = ""
    · subst empty
      exact .inr (.unnamed (named rfl ▸ listed))
    · exact .inl (Lint.contains_of_no_errors rfl rfl clean listed mem empty)

/-- A gate and a named transition lead to timelines that are there. -/
theorem Playback.Hosted.contains_of_restart {r : Registry} {key : String} {p : Playback}
    (h : Hosted r (.navigate (.restart key), p)) (clean : (Lint.check {} r).hasErrors = false)
    (named : key ≠ "") : r.contains key = true := by
  obtain ⟨name, timeline, first, found, sourced⟩ := h.sourced
  obtain ⟨e, met, mem, -⟩ := sourced.restart key h.navigation
  exact Lint.contains_of_no_errors rfl rfl clean ⟨name, timeline, found, met.mem⟩ mem named

namespace Session

/-- The host finds all timelines but those that were never checked. -/
structure Resolved (r : Registry) (s : Session) : Prop where
  hosted : s.result? = none → ∃ g, Playback.Hosted r (g, s.playback)
  restarts : ∀ key ∈ s.playback.restarts, r.contains key = true ∨ r.Unchecked key
  failure : ∀ e, s.result? = some (.error (.load e)) →
    ∃ key, e = .unknownTimeline key ∧ r.contains key = false ∧ r.Unchecked key

theorem Hosts.resolved {r : Registry} {s : Session} (h : s.Hosts r)
    (clean : (Lint.check {} r).hasErrors = false) : s.Resolved r := by
  refine ⟨h.hosted, ?_, ?_⟩
  · intro key mem
    exact (h.restarts key mem).contains_or_unchecked clean
  · intro e failed
    obtain ⟨key, rfl, missing, leads⟩ := h.failure e failed
    refine ⟨key, rfl, missing, (leads.contains_or_unchecked clean).resolve_left ?_⟩
    simp [missing]

/-- Without errors the host finds all timelines that were checked, whatever it is given: a restart
that a player asks for leads to a timeline of the registry, unless it has no name. -/
theorem resolved_of_no_errors {r : Registry} {config : Config} {options : Options}
    {streams : Nat → Random} (clean : (Lint.check {} r).hasErrors = false)
    (start : r.contains options.start = true) :
    (∀ key p, Playback.Hosted r (.navigate (.restart key), p) → key ≠ "" →
        r.contains key = true) ∧
      (∀ inputs, ((Session.start r config options streams).takes inputs).Resolved r) ∧
        ∀ lines, (run r config options lines streams).Resolved r := by
  have hosts : (Session.start r config options streams).Hosts r := hosts_start start
  refine ⟨?_, ?_, ?_⟩
  · intro key p hosted named
    exact hosted.contains_of_restart clean named
  · intro inputs
    exact (hosts.takes inputs).resolved clean
  · intro lines
    obtain ⟨inputs, played⟩ := play_takes (Session.start r config options streams) lines
    rw [run, played]
    exact (hosts.takes inputs).resolved clean

def twoParts : Registry :=
  (Registry.insert {} "intro" [.choice [⟨"Go", "outro"⟩]]).insert "outro" []

theorem two_parts_resolved :
    (run twoParts .default { start := "intro" } [.text "1"]).playback.restarts = ["outro"] ∧
      ∀ lines, (run twoParts .default { start := "intro" } lines).Resolved twoParts := by
  have clean : (Lint.check {} twoParts).hasErrors = false := by decide
  have start : twoParts.contains "intro" = true := by decide
  exact ⟨rfl, (resolved_of_no_errors clean start).2.2⟩

/-- The main scene is entered with a timeline that is not there. -/
def strayEntry : Registry :=
  Registry.insert {} "intro" [.sceneTransition ⟨mainScene, some (.object [("id", .string "nope")])⟩]

theorem stray_entry_unknown :
    (Lint.check {} strayEntry).hasErrors = false ∧ strayEntry.contains "intro" = true ∧
      (run strayEntry .default { start := "intro" } []).result? =
        some (.error (.load (.unknownTimeline "nope"))) :=
  ⟨by decide, by decide, rfl⟩

end Session

end VisualNovel
