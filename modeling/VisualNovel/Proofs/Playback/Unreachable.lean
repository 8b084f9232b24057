import VisualNovel.Proofs.Lint.Flow
import VisualNovel.Proofs.Playback.Dispatched
import VisualNovel.Proofs.Playback.Provenance
import VisualNovel.Proofs.Gate.Screen

namespace VisualNovel

namespace Event

theorem pacing_of_endsActivation {e : Event} (h : e.endsActivation = true) :
    e.pacing = .blocking := by
  cases e <;> first | rfl | cases h

theorem destinations_of_endsActivation {e : Event} {g : Gate} (h : e.endsActivation = true)
    (opens : e.Opens g) : "" ∉ g.destinations := by
  rw [Gate.destinations_of_opens opens]
  cases opens with
  | choice nonempty =>
    simp only [endsActivation, Bool.and_eq_true, List.all_eq_true] at h
    intro empty
    obtain ⟨choice, mem, unnamed⟩ := List.mem_map.1 empty
    simpa [unnamed] using h.2 choice mem
  | multiChoice nonempty perm =>
    simp only [endsActivation, Bool.and_eq_true] at h
    simp only [destinations, List.mem_cons, List.not_mem_nil, or_false]
    rintro (unnamed | unnamed)
    · simp [← unnamed] at h
    · simp [← unnamed] at h

end Event

namespace Gate

theorem leadingTo_eq_fallback {destination : String} {verdict verdict' : Option Verdict}
    (h : Response.leadingTo destination verdict = .fallback verdict') : destination = "" := by
  unfold Response.leadingTo at h
  split at h
  · next unnamed => simpa using unnamed
  · cases h

/-- Only a gate with a button that leads nowhere leads nowhere. -/
theorem unnamed_of_fallback {g : Gate} {id : Nat} {verdict : Option Verdict}
    (h : (g.press id).1 = .fallback verdict) : "" ∈ g.destinations := by
  cases g with
  | single g =>
    simp only [press, Single.press] at h
    split at h
    · next choice found =>
      rw [← leadingTo_eq_fallback h]
      exact List.mem_map_of_mem (List.mem_of_getElem? found)
    · cases h
  | multi g =>
    simp only [press, Multi.press] at h
    split at h
    · simp only [Multi.confirm] at h
      split at h
      · cases h
      · rw [← leadingTo_eq_fallback h]
        split <;> simp [destinations]
    · obtain ⟨reason, kept⟩ | ⟨option, selected, -, -, toggled⟩ := g.toggle_cases id
      · rw [kept] at h
        cases h
      · rw [toggled] at h
        cases h

end Gate

namespace Playback

/-- The player does not get past a place: it stands before it, or it was left there, or it is held
up there by a gate that leads somewhere with each button. -/
structure Barred (timeline : Timeline) (exit : Nat) (p : Playback) : Prop where
  plays : p.player.timeline = some timeline
  index_le : p.player.index ≤ exit + 1
  held : p.player.index = exit + 1 → p.player.navigation.isSome = true ∨
    p.player.advanceEnabled = false ∧ ∀ g, p.player.gate = some g → "" ∉ g.destinations

variable {timeline : Timeline} {exit : Nat}

theorem Barred.congr {p q : Playback} (h : Barred timeline exit p)
    (same : q.player.timeline = p.player.timeline) (index : q.player.index = p.player.index)
    (navigation : q.player.navigation = p.player.navigation)
    (enabled : q.player.advanceEnabled = p.player.advanceEnabled)
    (gate : q.player.gate.map Gate.destinations = p.player.gate.map Gate.destinations) :
    Barred timeline exit q := by
  refine ⟨same.trans h.plays, index ▸ h.index_le, ?_⟩
  rw [index, navigation, enabled]
  intro there
  refine (h.held there).imp_right (And.imp_right fun named g gated => ?_)
  rw [gated, Option.map_some, eq_comm, Option.map_eq_some_iff] at gate
  obtain ⟨g', gated', destinations⟩ := gate
  exact destinations ▸ named g' gated'

theorem block_ne_waitInput {p : Playback} {e : Event} (ends : e.endsActivation = true) :
    (p.block e).1 ≠ .waitInput := by
  cases e with
  | timelineTransition key | sceneTransition jump => simp [block]
  | choice options =>
    have nonempty : options.isEmpty = false := by
      simp only [Event.endsActivation, Bool.and_eq_true, Bool.not_eq_true'] at ends
      exact ends.1
    simp [block, nonempty]
  | multiChoice set =>
    have nonempty : set.choices.isEmpty = false := by
      simp only [Event.endsActivation, Bool.and_eq_true, Bool.not_eq_true'] at ends
      exact ends.1.1
    simp [block, nonempty]
  | _ => cases ends

/-- Where an activation ends the player is left or held up. -/
theorem barred_blocked {p q : Playback} {e : Event} {g : Progress}
    (plays : p.player.timeline = some timeline) (index : p.player.index = exit + 1)
    (ends : e.endsActivation = true) (held_up : g ≠ .waitInput) (blocked : Blocked p q e g) :
    Barred timeline exit (q.settle g).2 := by
  cases blocked with
  | typing text hidden player surface | stalled player surface => cases ends
  | waiting player surface => exact (held_up rfl).elim
  | restart player surface | scene player surface =>
    exact ⟨by simp [player, plays], by simp [player, index], fun _ => .inl (by simp [player])⟩
  | gate opens player surface =>
    refine ⟨by simp [player, plays], by simp [player, index], fun _ => .inr ⟨by simp [player], ?_⟩⟩
    simpa [player] using Event.destinations_of_endsActivation ends opens

theorem length_le_of_blocking {index place : Nat} {events rest : List Event} {e : Event}
    (left : timeline.drop index = events ++ rest)
    (immediate : ∀ e ∈ events, e.pacing = .immediate) (index_le : index ≤ place)
    (there : timeline[place]? = some e) (blocking : e.pacing = .blocking) :
    index + events.length ≤ place := by
  by_contra beyond
  have among : (events ++ rest)[place - index]? = some e := by
    rw [← left, List.getElem?_drop, Nat.add_sub_cancel' index_le, there]
  rw [List.getElem?_append_left (by omega)] at among
  rw [immediate e (List.mem_of_getElem? among)] at blocking
  cases blocking

theorem barred_run {p : Playback} {e : Event} (there : timeline[exit]? = some e)
    (ends : e.endsActivation = true) (plays : p.player.timeline = some timeline)
    (index_le : p.player.index ≤ exit) : Barred timeline exit (p.run.2.settle p.run.1).2 := by
  have blocking := Event.pacing_of_endsActivation ends
  have run : p.run = p.runThrough (timeline.drop p.player.index) := by
    simp only [Playback.run, plays]
  rw [run]
  obtain ⟨q, passed, -⟩ | ⟨q, events, e', rest, left, passed, -, stopped⟩ :=
    runThrough_cases p (timeline.drop p.player.index)
  · -- the exit is among the events that are left, so that the end is not come to
    have beyond := length_le_of_blocking (List.append_nil _).symm passed.immediate index_le there
      blocking
    have lt := (List.getElem?_eq_some_iff.1 there).1
    rw [List.length_drop] at beyond
    omega
  · have before := length_le_of_blocking left passed.immediate index_le there blocking
    have index : (q.passing e').player.index = p.player.index + events.length + 1 := by
      simp [passed.player]
    rw [stopped]
    obtain rfl | lt := Nat.eq_or_lt_of_le before
    · obtain rfl : e' = e := by
        rw [← List.getElem?_drop, left] at there
        simpa using there
      exact barred_blocked (by simp [passed.player, plays]) index ends (block_ne_waitInput ends)
        (block_blocked (q.passing e') e')
    · -- the player was held up earlier, and nothing is said of where it stands
      have moved := blocked_moved (block_blocked (q.passing e') e')
      have place : ((q.passing e').block e').2.player.index =
          p.player.index + events.length + 1 := by
        simpa [passed.player] using moved.index
      refine ⟨?_, ?_, ?_⟩
      · simpa [passed.player, plays] using moved.plays
      · simp only [settle_player, place]
        omega
      · simp only [settle_player, place]
        omega

theorem barred_step {p q : Playback} {c : Call} {g : Progress} {e : Event}
    (there : timeline[exit]? = some e) (ends : e.endsActivation = true)
    (h : Barred timeline exit p) (step : Step p q c g) : Barred timeline exit q := by
  cases step with
  | finished navigation same => exact same ▸ h
  | ungated navigation gate same => exact same ▸ h
  | unshown navigation reveal same => exact same ▸ h
  | ignored navigation enabled player surface
  | completed navigation enabled shown player surface
  | showing navigation shown ticked incomplete player surface
  | shown navigation shown ticked complete player surface =>
    refine h.congr ?_ ?_ ?_ ?_ ?_ <;> simp [player]
  | refused navigation gated pressed player surface
  | toggled navigation gated pressed player surface =>
    refine h.congr ?_ ?_ ?_ ?_ ?_ <;> simp [player, gated]
  | resolved navigation gated pressed player surface =>
    exact ⟨by simpa [player] using h.plays, by simpa [player] using h.index_le,
      fun _ => .inl (by simp [player])⟩
  | fellBack navigation gated pressed player surface =>
    refine ⟨by simpa [player] using h.plays, by simpa [player] using h.index_le, fun place => ?_⟩
    -- at the exit each button of the gate leads somewhere
    obtain left | ⟨-, named⟩ := h.held (by simpa [player] using place)
    · simp [navigation] at left
    · exact (named _ gated (Gate.unnamed_of_fallback pressed)).elim
  | @ran m g navigation enabled reveal run player surface =>
    have before : p.player.index ≤ exit := by
      refine Nat.le_of_lt_succ (Nat.lt_of_le_of_ne h.index_le fun place => ?_)
      obtain left | ⟨disabled, -⟩ := h.held place
      · simp [navigation] at left
      · simp [enabled] at disabled
    have barred := barred_run there ends h.plays before
    rw [run] at barred
    refine barred.congr ?_ ?_ ?_ ?_ ?_ <;> simp [player]

/-- Events that are told to be unreachable are never carried out, wherever before them and however
often a player begins, and whatever it is asked to do. -/
theorem unreachable_never_played {config : Lint.Config} {r : Registry} {name tag : String}
    {count exit first : Nat}
    (told : ⟨.unreachableEvents count tag exit, name, some first⟩ ∈
      (Lint.check config r).issues) :
    ∃ timeline, r.find? name = some timeline ∧ first < timeline.length ∧
      ∀ (p : Playback) (index : Nat) (cs : List Call) (s : Progress × Playback), index < first →
        calls (p.startAt timeline index) cs = .ok s →
        s.2.player.index ≤ first ∧
          ∃ dispatched, callsTold (p.startAtTold timeline index) cs = .ok (s, dispatched) ∧
            ∀ d ∈ dispatched, d.1 < first := by
  obtain ⟨timeline, exit, e, found, rfl, lt, there, ends⟩ := Lint.exit_of_unreachableEvents told
  refine ⟨timeline, found, lt, ?_⟩
  intro p index cs s before hc
  have ready := p.readied_ready timeline index
  have begun : Barred timeline exit (p.startAt timeline index).2 :=
    barred_run there ends ready.timeline
      (Nat.le_trans (Nat.le_of_eq ready.index) (Nat.le_of_lt_succ before))
  have barred : Barred timeline exit s.2 :=
    calls_invariant (fun r => Barred timeline exit r.2) (barred_step there ends) hc begun
  obtain ⟨dispatched, ht, accounted⟩ := accounted_calls hc
  refine ⟨barred.index_le, dispatched, ht, ?_⟩
  intro d mem
  have number : d.1 ∈ List.range' index (s.2.player.index - index) :=
    accounted.numbers ▸ List.mem_map_of_mem mem
  have first_le := accounted.first_le
  have index_le := barred.index_le
  simp only [List.mem_range'_1] at number
  omega

/-- A line, a gate that can only be left, and a line behind it. -/
def lostLine : Registry :=
  Registry.insert {} "start" [.dialog { text := "" }, .choice [⟨"Go", "next"⟩],
    .dialog { text := "Never" }]

/-- The line behind the gate is told to be unreachable. It is not shown before the gate is answered,
and not after it. -/
theorem lost_line_never_played :
    ∃ timeline s dispatched, lostLine.find? "start" = some timeline ∧
      calls (fresh.startAt timeline 0) [.advance, .press 1, .advance, .press 0, .advance] = .ok s ∧
      callsTold (fresh.startAtTold timeline 0)
        [.advance, .press 1, .advance, .press 0, .advance] = .ok (s, dispatched) ∧
      s.2.player.index = 2 ∧ ∀ d ∈ dispatched, d.1 < 2 := by
  have told : ⟨.unreachableEvents 1 "choice" 1, "start", some 2⟩ ∈
      (Lint.check {} lostLine).issues := List.mem_of_getElem? (i := 1) rfl
  obtain ⟨timeline, found, -, never⟩ := unreachable_never_played told
  have same : timeline = [.dialog { text := "" }, .choice [⟨"Go", "next"⟩],
      .dialog { text := "Never" }] := Option.some.inj (found.symm.trans rfl)
  have made : ∃ s, calls (fresh.startAt timeline 0)
      [.advance, .press 1, .advance, .press 0, .advance] = .ok s ∧ s.2.player.index = 2 := by
    subst same
    exact ⟨_, rfl, rfl⟩
  obtain ⟨s, hs, place⟩ := made
  obtain ⟨-, dispatched, ht, before⟩ := never fresh 0 _ s (by decide) hs
  exact ⟨timeline, s, dispatched, found, hs, ht, place, before⟩

end Playback

end VisualNovel
