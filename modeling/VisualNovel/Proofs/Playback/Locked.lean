import VisualNovel.Proofs.Lint.Selection
import VisualNovel.Proofs.Playback.Control

namespace VisualNovel

/-- A gate that an event opened, whatever was pressed since. -/
inductive Event.Asks : Event → Gate → Prop where
  | single {options : List Choice} : Asks (.choice options) (.single ⟨options⟩)
  | multi {set : MultiChoiceSet} {order : List Nat} {g : Gate.Multi} (serves : g.Serves set order)
      (sound : g.Sound) : Asks (.multiChoice set) (.multi g)

theorem Event.asks_of_opens {e : Event} {g : Gate} (h : e.Opens g) : e.Asks g := by
  cases h with
  | choice nonempty => exact .single
  | multiChoice nonempty perm =>
    exact .multi (Gate.Multi.serves_ofOrder _ _) (Gate.Multi.sound_ofOrder nonempty perm)

theorem Event.Asks.press {e : Event} {g : Gate} (h : e.Asks g) (id : Nat) :
    e.Asks (g.press id).2 := by
  cases h with
  | single => exact .single
  | multi serves sound => exact .multi (serves.press id) (Gate.Multi.sound_press sound id)

namespace Playback

/-- A player that waits for a choice has the gate of the event before its cursor. -/
structure Asked (timeline : Timeline) (p : Playback) : Prop where
  plays : p.player.timeline = some timeline
  asked : p.player.progress = .waitChoice → ∃ place e g, p.player.index = place + 1 ∧
    timeline[place]? = some e ∧ p.player.gate = some g ∧ e.Asks g

variable {timeline : Timeline}

theorem Asked.of_ne {p : Playback} (plays : p.player.timeline = some timeline)
    (other : p.player.progress ≠ .waitChoice) : Asked timeline p :=
  ⟨plays, fun waits => (other waits).elim⟩

theorem Asked.congr {p q : Playback} (h : Asked timeline p)
    (plays : q.player.timeline = p.player.timeline) (index : q.player.index = p.player.index)
    (gate : q.player.gate = p.player.gate) (progress : q.player.progress = p.player.progress) :
    Asked timeline q := by
  refine ⟨plays.trans h.plays, ?_⟩
  rw [index, gate, progress]
  exact h.asked

theorem asked_blocked {p q : Playback} {e : Event} {g : Progress} {place : Nat}
    (plays : p.player.timeline = some timeline) (index : p.player.index = place + 1)
    (there : timeline[place]? = some e) (h : Blocked p q e g) :
    Asked timeline (q.settle g).2 := by
  cases h with
  | typing text hidden player surface | waiting player surface | stalled player surface
  | restart player surface | scene player surface =>
    exact .of_ne (by simp [player, plays]) (by simp)
  | gate opens player surface =>
    have asks := Event.asks_of_opens opens
    refine ⟨by simp [player, plays], fun _ => ⟨place, e, _, ?_, there, ?_, asks⟩⟩
    · simp [player, index]
    · simp [player]

theorem asked_ran {p m : Playback} {g : Progress} (plays : p.player.timeline = some timeline)
    (h : Ran p timeline g m) : Asked timeline (m.settle g).2 := by
  cases h with
  | ended left passed player surface =>
    exact .of_ne (by simp [player, passed.player, plays]) (by simp)
  | @blocked q _ events rest e _ left passed blocked =>
    have there : timeline[p.player.index + events.length]? = some e := by
      rw [← List.getElem?_drop, left]
      simp
    exact asked_blocked (by simp [passed.player, plays]) (by simp [passed.player]) there blocked

theorem asked_startAt (p : Playback) (timeline : Timeline) (index : Nat) :
    Asked timeline (p.startAt timeline index).2 := by
  have ready := p.readied_ready timeline index
  have ran := run_ran (p.readied timeline index)
  rw [ready.timeline] at ran
  exact asked_ran ready.timeline ran

theorem Asked.pressed {p q : Playback} {gate : Gate} {id : Nat} (h : Asked timeline p)
    (gated : p.player.gate = some gate)
    (player : q.player = { p.player with gate := some (gate.press id).2 }) : Asked timeline q := by
  refine ⟨by rw [player]; exact h.plays, fun waits => ?_⟩
  obtain ⟨place, e, g, index, there, gated', asks⟩ := h.asked (by simpa [player] using waits)
  obtain rfl : gate = g := Option.some.inj (gated.symm.trans gated')
  exact ⟨place, e, _, by simpa [player] using index, there, by rw [player], asks.press id⟩

theorem asked_step {p q : Playback} {c : Call} {g : Progress} (h : Asked timeline p)
    (step : Step p q c g) : Asked timeline q := by
  cases step with
  | finished navigation same => exact same ▸ h
  | ungated navigation gate same => exact same ▸ h
  | unshown navigation reveal same => exact same ▸ h
  | ignored navigation enabled player surface
  | showing navigation shown ticked incomplete player surface =>
    refine h.congr ?_ ?_ ?_ ?_ <;> rw [player]
  | completed navigation enabled shown player surface
  | resolved navigation gated pressed player surface
  | fellBack navigation gated pressed player surface
  | shown navigation shown ticked complete player surface =>
    exact .of_ne (by simp [player, h.plays]) (by simp [player])
  | @ran m g navigation enabled reveal run player surface =>
    have ran := ran_of_run run
    rw [h.plays] at ran
    have settled : Asked timeline (m.settle g).2 := asked_ran h.plays ran
    refine settled.congr ?_ ?_ ?_ ?_ <;> simp [player]
  | refused navigation gated pressed player surface
  | toggled navigation gated pressed player surface => exact h.pressed gated player

/-- The player waits for a choice and takes only presses of a gate. -/
structure Held (p : Playback) (g : Gate.Multi) : Prop where
  gated : p.player.gate = some (.multi g)
  waits : p.player.progress = .waitChoice
  navigation : p.player.navigation = none
  disabled : p.player.advanceEnabled = false
  hidden : p.player.reveal = none

/-- Whatever is asked of the player, it waits for a choice. -/
def Locked (r : Progress × Playback) : Prop :=
  ∀ more t, calls r more = .ok t → t.2.player.progress = .waitChoice

/-- With some presses the player is brought to wait for no choice. -/
def Escapes (r : Progress × Playback) : Prop :=
  ∃ (ids : List Nat) (t : Progress × Playback),
    calls r (ids.map .press) = .ok t ∧ t.2.player.progress ≠ .waitChoice

/-- What a call makes of a gate. -/
def Call.pressing (c : Call) (g : Gate.Multi) : Gate.Multi :=
  match c with
  | .press id => (g.press id).2
  | _ => g

variable {p q : Playback} {g : Gate.Multi}

theorem Held.pressed {id : Nat} {gate : Gate} (h : Held p g) (gated : p.player.gate = some gate)
    (player : q.player = { p.player with gate := some (gate.press id).2 }) :
    Held q (g.press id).2 := by
  obtain rfl : .multi g = gate := Option.some.inj (h.gated.symm.trans gated)
  constructor
  · rw [player]
    rfl
  · simpa [player] using h.waits
  · simpa [player] using h.navigation
  · simpa [player] using h.disabled
  · simpa [player] using h.hidden

theorem Held.step {c : Call} {a : Progress} (h : Held p g) (step : Step p q c a)
    (stays : ∀ id, c = .press id → ¬ (g.press id).1.Leaves) :
    Held q (c.pressing g) := by
  cases step with
  | finished navigation same => simp [h.navigation] at navigation
  | ignored navigation enabled player surface =>
    exact ⟨player ▸ h.gated, player ▸ h.waits, player ▸ h.navigation, player ▸ h.disabled,
      player ▸ h.hidden⟩
  -- pointer downs are not taken, and no line is shown for which time could go by
  | completed navigation enabled shown player surface | ran navigation enabled =>
    simp [h.disabled] at enabled
  | ungated navigation gate same => simp [h.gated] at gate
  | refused navigation gated pressed player surface
  | toggled navigation gated pressed player surface => exact h.pressed gated player
  | @resolved id gate key verdict navigation gated pressed player surface =>
    obtain rfl : .multi g = gate := Option.some.inj (h.gated.symm.trans gated)
    exact (stays id rfl (.inl ⟨key, verdict, pressed⟩)).elim
  | @fellBack id gate verdict navigation gated pressed player surface =>
    obtain rfl : .multi g = gate := Option.some.inj (h.gated.symm.trans gated)
    exact (stays id rfl (.inr ⟨verdict, pressed⟩)).elim
  | unshown navigation reveal same => exact same ▸ h
  | showing navigation shown ticked incomplete player surface
  | shown navigation shown ticked complete player surface => simp [h.hidden] at shown

theorem Held.left {id : Nat} (h : Held p g) (leaves : (g.press id).1.Leaves) :
    (p.press id).2.player.progress ≠ .waitChoice := by
  have response : ((Gate.multi g).press id).1 = (g.press id).1 := rfl
  rw [press_gated id h.navigation h.gated, response]
  obtain ⟨key, verdict, resolved⟩ | ⟨verdict, fell⟩ := leaves
  · rw [resolved]
    cases verdict <;> simp [respond]
  · rw [fell]
    simp [respond]

/-- A player at a gate with bounds that cannot be kept is held up whatever is asked of it. -/
theorem Held.locked {set : MultiChoiceSet} {order : List Nat} {r : Progress × Playback}
    (h : Held r.2 g) (serves : g.Serves set order) (sound : g.Sound) (never : ¬ set.Answerable) :
    Locked r := by
  intro more t ht
  let Inv (r : Progress × Playback) := ∃ g : Gate.Multi, Held r.2 g ∧ g.Serves set order ∧ g.Sound
  have kept : Inv t := by
    refine calls_invariant Inv ?_ ht ⟨g, h, serves, sound⟩
    rintro _ _ p q c ⟨g, held, serves, sound⟩ step
    have held' := held.step step fun id _ => serves.stuck sound never id
    cases c with
    | press id => exact ⟨_, held', serves.press id, Gate.Multi.sound_press sound id⟩
    | advance | tick time => exact ⟨_, held', serves, sound⟩
  obtain ⟨g, held, -⟩ := kept
  exact held.waits

/-- While buttons are pressed either one of them leaves the gate or all come to be pressed. -/
theorem Held.presses {r : Progress × Playback} (h : Held r.2 g) (ids : List Nat) :
    Escapes r ∨ ∃ t, calls r (ids.map .press) = .ok t ∧ Held t.2 (g.pressAll ids) := by
  induction ids generalizing r g with
  | nil => exact .inr ⟨r, rfl, h⟩
  | cons id rest ih =>
    by_cases leaves : (g.press id).1.Leaves
    · exact .inl ⟨[id], r.2.press id, rfl, h.left leaves⟩
    · have held : Held (r.2.press id).2 (g.press id).2 :=
        h.step (press_step r.2 id) (by rintro _ ⟨⟩; exact leaves)
      obtain ⟨ids, t, ht, left⟩ | ⟨t, ht, held'⟩ := ih held
      · exact .inl ⟨id :: ids, t, calls_cons.2 ⟨_, rfl, ht⟩, left⟩
      · exact .inr ⟨t, calls_cons.2 ⟨_, rfl, ht⟩, held'⟩

/-- A player at a gate with bounds that can be kept is brought on by presses. -/
theorem Held.escapes {set : MultiChoiceSet} {order : List Nat} {r : Progress × Playback}
    (h : Held r.2 g) (serves : g.Serves set order) (sound : g.Sound) (able : set.Answerable) :
    Escapes r := by
  obtain ⟨more, enough⟩ := serves.exists_enough sound able
  obtain escapes | ⟨t, ht, held⟩ := h.presses more
  · exact escapes
  · have leaves := (serves.pressAll more).leaves enough
    refine ⟨more ++ [(g.pressAll more).confirmButton], _, ?_, held.left leaves⟩
    rw [List.map_append]
    exact calls_append.2 ⟨t, ht, rfl⟩

/-- A player that waits for a choice behind a multiple choice is held up at its gate. -/
theorem held_of_waits {set : MultiChoiceSet} {index : Nat} (asked : Asked timeline p)
    (controlled : Controlled p) (there : timeline[index]? = some (.multiChoice set))
    (place : p.player.index = index + 1) (waits : p.player.progress = .waitChoice) :
    ∃ order, ∃ g : Gate.Multi, Held p g ∧ g.Serves set order ∧ g.Sound := by
  obtain ⟨place', e, gate, here, there', gated, asks⟩ := asked.asked waits
  obtain rfl : index = place' := by omega
  obtain rfl : .multiChoice set = e := Option.some.inj (there.symm.trans there')
  have navigation : p.player.navigation = none := by
    refine Option.eq_none_iff_forall_ne_some.2 fun n taken => ?_
    cases waits.symm.trans ((controlled.navigation_iff n).1 taken)
  cases asks with
  | @multi _ order g serves sound =>
    refine ⟨order, g, ⟨gated, waits, navigation, ?_, ?_⟩, serves, sound⟩
    · exact (controlled.choosing_iff navigation).1 waits
    · exact (controlled.choosing navigation waits).2

/-- An error in a multiple choice is told exactly when its gate is never left. In whatever order the
options are shown, the button that confirms then refuses every selection, and a player that waits
for the choice goes on to wait whatever is asked of it. Without such an error any selection can be
made up to one with which the gate is left, and a player that waits can be brought on by presses. -/
theorem error_iff_never_left {r : Registry} {name : String} {timeline : Timeline} {index : Nat}
    {set : MultiChoiceSet} (found : r.find? name = some timeline)
    (there : timeline[index]? = some (.multiChoice set)) (nonempty : set.choices ≠ [])
    (config : Lint.Config) :
    ((∃ i ∈ (Lint.check config r).issues, i.finding.category = "quality" ∧ i.level = .error ∧
        i.timeline = name ∧ i.index = some index) ↔
      config.quality.enabled = true ∧ Lint.ErrorAt config.quality.maxTextLength r name index) ∧
    (∀ order : List Nat, order.Perm (.range set.choices.length) →
      (Lint.ErrorAt config.quality.maxTextLength r name index ↔
        ∀ ids, (Gate.Multi.ofOrder set order).confirmAfter ids = .refused .belowMinimum) ∧
      (¬ Lint.ErrorAt config.quality.maxTextLength r name index →
        ∀ ids, ∃ more, ((Gate.Multi.ofOrder set order).confirmAfter (ids ++ more)).Leaves)) ∧
    ∀ (p : Playback) (first : Nat) (cs : List Call) (s : Progress × Playback),
      calls (p.startAt timeline first) cs = .ok s → s.2.player.index = index + 1 →
      s.2.player.progress = .waitChoice →
      (Lint.ErrorAt config.quality.maxTextLength r name index → Locked s) ∧
      (¬ Lint.ErrorAt config.quality.maxTextLength r name index → Escapes s) := by
  rw [Lint.errorAt_told_iff, Lint.errorAt_iff found there nonempty]
  refine ⟨.rfl, ?_, ?_⟩
  · intro order perm
    have serves := Gate.Multi.serves_ofOrder set order
    have sound := Gate.Multi.sound_ofOrder nonempty perm
    exact ⟨serves.not_answerable_iff sound,
      fun able => serves.exists_leaving sound (not_not.1 able)⟩
  · intro p first cs s hs place waits
    have asked : Asked timeline s.2 :=
      calls_invariant (fun r => Asked timeline r.2) asked_step hs (asked_startAt p timeline first)
    have begun : p.opened (.startAt timeline first) = .ok (p.startAt timeline first) := rfl
    have controlled := controlled_calls begun hs
    -- the gate may have been pressed before, so that nothing is known of what is selected
    obtain ⟨order, g, held, serves, sound⟩ := held_of_waits asked controlled there place waits
    exact ⟨held.locked serves sound, fun able => held.escapes serves sound (not_not.1 able)⟩

/-- Both options have to be selected, and only one of them may be. -/
def riddle : MultiChoiceSet where
  choices := [⟨"Heads", true, false, none⟩, ⟨"Tails", false, false, none⟩]
  correctKey := "next"
  incorrectKey := ""
  minSelect := 2
  maxSelect := some 1

def riddles : Registry :=
  Registry.insert {} "start" [.dialog { text := "" }, .multiChoice riddle]

/-- One option is selected and the other one rejected, and nothing more can come of it. -/
theorem riddle_never_left :
    ∃ timeline s, riddles.find? "start" = some timeline ∧
      calls (fresh.startAt timeline 0) [.advance, .press 0, .press 1] = .ok s ∧ Locked s ∧
      (Gate.Multi.ofOrder riddle [1, 0]).confirmAfter [0, 1] = .refused .belowMinimum := by
  have made : ∃ s, calls (fresh.startAt [.dialog { text := "" }, .multiChoice riddle] 0)
      [.advance, .press 0, .press 1] = .ok s ∧ s.2.player.index = 2 ∧
        s.2.player.progress = .waitChoice := ⟨_, rfl, rfl, rfl⟩
  obtain ⟨s, hs, place, waits⟩ := made
  obtain ⟨told_iff, gates, players⟩ := @error_iff_never_left riddles "start" _ 1 riddle rfl rfl
    (by decide) {}
  have told : ⟨.minAboveMax 2 1, "start", some 1⟩ ∈ (Lint.check {} riddles).issues :=
    List.mem_of_getElem? (i := 1) rfl
  obtain ⟨-, error⟩ := told_iff.1 ⟨_, told, rfl, rfl, rfl, rfl⟩
  exact ⟨_, s, rfl, hs, (players fresh 0 _ s hs place waits).1 error,
    (gates [1, 0] (by decide)).1.1 error _⟩

end Playback

end VisualNovel
