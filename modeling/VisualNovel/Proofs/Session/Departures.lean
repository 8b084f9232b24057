import VisualNovel.Proofs.Playback.Dispatched
import VisualNovel.Proofs.Session.Hosting

namespace VisualNovel.Playback

/-- The player asks to go on elsewhere: this is its answer, or what it has stored. -/
def Reports (r : Progress × Playback) (n : Navigation) : Prop :=
  r.1 = .navigate n ∨ r.2.player.progress = .navigate n ∨ r.2.player.navigation = some n

theorem Reports.navigation {r : Progress × Playback} {n : Navigation} (h : Reports r n)
    (controlled : Controlled r.2)
    (answer : r.1 = r.2.player.progress ∨ r.1 = .typing ∨ r.1 = .finished) :
    r.2.player.navigation = some n := by
  obtain answered | stored | reported := h
  · obtain stored | typing | finished := answer
    · exact (controlled.navigation_iff n).2 (stored.symm.trans answered)
    · cases typing.symm.trans answered
    · cases finished.symm.trans answered
  · exact (controlled.navigation_iff n).2 stored
  · exact reported

theorem calls_answer {p : Playback} {timeline : Timeline} {first : Nat} {cs : List Call}
    {s : Progress × Playback} (h : calls (p.startAt timeline first) cs = .ok s) :
    s.1 = s.2.player.progress ∨ s.1 = .typing ∨ s.1 = .finished :=
  calls_invariant (fun r => r.1 = r.2.player.progress ∨ r.1 = .typing ∨ r.1 = .finished)
    (fun _ step => step.answer) h (.inl rfl)

/-- A player that a host began asks for no timelines but the destinations of its own timeline. -/
theorem Hosted.mem_destinations {r : Registry} {m : Progress × Playback} {key : String}
    (h : Hosted r m) (reports : Reports m (.restart key)) :
    ∃ name timeline, m.2.player.timelineKey = some name ∧ r.find? name = some timeline ∧
      key ∈ timeline.flatMap Event.destinations := by
  obtain ⟨name, timeline, first, named, found, sourced⟩ := h.sourced_named
  obtain ⟨e, met, mem, -⟩ := sourced.restart key (reports.navigation h.controlled h.answer)
  exact ⟨name, timeline, named, found, List.mem_flatMap.2 ⟨e, met.mem, mem⟩⟩

/-- After any calls a player that asks for a timeline has carried out an event that leads there, and
one that asks for a scene has just carried out the transition to it. So a host is never asked for a
timeline that the destinations of the one that is played do not list. -/
theorem navigation_from_dispatched {p : Playback} {timeline : Timeline} {first : Nat}
    {cs : List Call} {s : Progress × Playback} (h : calls (p.startAt timeline first) cs = .ok s) :
    ∃ told, callsTold (p.startAtTold timeline first) cs = .ok (s, told) ∧
      (∀ key, Reports s (.restart key) →
        ∃ j e, first ≤ j ∧ j < s.2.player.index ∧ timeline[j]? = some e ∧ (j, e) ∈ told ∧
          key ∈ e.destinations) ∧
      (∀ name data, Reports s (.scene name data) →
        timeline[s.2.player.index - 1]? = some (.sceneTransition ⟨name, data⟩) ∧
          told.getLast? = some (s.2.player.index - 1, .sceneTransition ⟨name, data⟩)) ∧
      ∀ registry key m, Hosted registry m → Reports m (.restart key) →
        ∃ name played, m.2.player.timelineKey = some name ∧ registry.find? name = some played ∧
          key ∈ played.flatMap Event.destinations := by
  have controlled : Controlled s.2 :=
    controlled_calls (p := p) (o := .startAt timeline first) rfl h
  have sourced : Sourced timeline first s.2 :=
    calls_invariant (fun r => Sourced timeline first r.2) sourced_step h
      (sourced_startAt p timeline first)
  obtain ⟨told, ht, accounted⟩ := accounted_calls h
  refine ⟨told, ht, ?_, ?_, fun registry key m hosted => hosted.mem_destinations⟩
  · intro key reports
    obtain ⟨e, ⟨j, first_le, lt, found⟩, mem, -⟩ :=
      sourced.restart key (reports.navigation controlled (calls_answer h))
    exact ⟨j, e, first_le, lt, found, accounted.mem first_le lt found, mem⟩
  · intro name data reports
    obtain ⟨lt, found⟩ := sourced.scene name data (reports.navigation controlled (calls_answer h))
    exact ⟨found, accounted.getLast?_eq_some_iff.2 ⟨lt, rfl, found⟩⟩

/-- A gate with a way that leads nowhere, a line, and the end of the scene. -/
def crossroads : Timeline :=
  [.choice [⟨"Stay", ""⟩, ⟨"Go", "next"⟩], .dialog { text := "Hi" },
    .sceneTransition ⟨endingScene, none⟩]

/-- The gate is answered once more while the line behind it is shown, or the line is read to its
end. The first way out comes from an event that is not the last one. -/
theorem crossroads_left :
    (∃ s told, calls (fresh.startAt crossroads 0) [.press 0, .advance, .press 1] = .ok s ∧
        callsTold (fresh.startAtTold crossroads 0) [.press 0, .advance, .press 1] =
          .ok (s, told) ∧
        Reports s (.restart "next") ∧ s.2.player.index = 2 ∧
        ∃ j e, j < 2 ∧ crossroads[j]? = some e ∧ (j, e) ∈ told ∧ "next" ∈ e.destinations) ∧
      ∃ s told, calls (fresh.startAt crossroads 0)
          [.press 0, .advance, .advance, .advance] = .ok s ∧
        callsTold (fresh.startAtTold crossroads 0) [.press 0, .advance, .advance, .advance] =
          .ok (s, told) ∧
        Reports s (.scene endingScene none) ∧
        told.getLast? = some (2, .sceneTransition ⟨endingScene, none⟩) := by
  constructor
  · have made : ∃ s, calls (fresh.startAt crossroads 0) [.press 0, .advance, .press 1] = .ok s ∧
        Reports s (.restart "next") ∧ s.2.player.index = 2 := ⟨_, rfl, .inl rfl, rfl⟩
    obtain ⟨s, hs, reports, index⟩ := made
    obtain ⟨told, ht, restart, -⟩ := navigation_from_dispatched hs
    obtain ⟨j, e, -, lt, found, mem, leads⟩ := restart _ reports
    exact ⟨s, told, hs, ht, reports, index, j, e, index ▸ lt, found, mem, leads⟩
  · have made : ∃ s, calls (fresh.startAt crossroads 0)
        [.press 0, .advance, .advance, .advance] = .ok s ∧
        Reports s (.scene endingScene none) ∧ s.2.player.index = 3 := ⟨_, rfl, .inl rfl, rfl⟩
    obtain ⟨s, hs, reports, index⟩ := made
    obtain ⟨told, ht, -, scene, -⟩ := navigation_from_dispatched hs
    obtain ⟨-, last⟩ := scene _ _ reports
    rw [index] at last
    exact ⟨s, told, hs, ht, reports, last⟩

end VisualNovel.Playback
