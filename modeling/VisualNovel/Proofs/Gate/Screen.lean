import Mathlib.Data.List.Nodup
import VisualNovel.Proofs.Gate
import VisualNovel.Stage.Basic

namespace VisualNovel

namespace Stage

/-- Where buttons are numbered from somewhere on, the number of a button tells its place. -/
theorem setState_zip {buttons : List Button} {first : Nat}
    (numbered : buttons.map Button.id = List.range' first buttons.length)
    (states : List ButtonState) (place : Nat) (state : ButtonState) :
    setState (first + place) state (buttons.zip states) =
      buttons.zip (states.set place state) := by
  induction buttons generalizing first states place with
  | nil => rfl
  | cons b rest ih =>
    obtain ⟨number, later⟩ : b.id = first ∧
        rest.map Button.id = List.range' (first + 1) rest.length := by
      simpa [List.range'_succ] using numbered
    cases states with
    | nil => rfl
    | cons s states =>
      cases place with
      | zero => simp [setState, number]
      | succ place =>
        have other : b.id ≠ first + (place + 1) := by omega
        have next := ih later states place
        rw [show first + 1 + place = first + (place + 1) by omega] at next
        simp [setState, other, next]

end Stage

namespace Gate

namespace Multi

def isSelected (g : Multi) (option : Nat) : Bool := g.options[option]?.any Toggle.selected

def stateOf (g : Multi) (option : Nat) : ButtonState :=
  if g.isSelected option then .selected else .idle

theorem isSelected_setSelected {g : Multi} {option : Nat} (lt : option < g.options.length)
    (selected : Bool) (other : Nat) : (g.setSelected option selected).isSelected other =
      if other = option then selected else g.isSelected other := by
  simp only [isSelected, setSelected, List.getElem?_modify]
  by_cases same : other = option
  · subst same
    simp [lt]
  · simp [same, Ne.symm same]

theorem mem_selected_iff {g : Multi} {option : Nat} :
    option ∈ g.selected ↔ g.isSelected option = true := by
  simp only [selected, isSelected, List.mem_filterMap, Prod.exists,
    List.mk_mem_zipIdx_iff_getElem?, Option.any_eq_true]
  constructor
  · rintro ⟨t, i, found, kept⟩
    split at kept
    · next chosen =>
      cases kept
      exact ⟨t, found, chosen⟩
    · cases kept
  · rintro ⟨t, found, chosen⟩
    exact ⟨t, option, found, if_pos chosen⟩

theorem lt_of_mem_selected {g : Multi} {option : Nat} (mem : option ∈ g.selected) :
    option < g.options.length := by
  obtain ⟨t, found, -⟩ := (Option.any_eq_true _ _).1 (mem_selected_iff.1 mem)
  exact (List.getElem?_eq_some_iff.1 found).1

theorem length_selected (g : Multi) : g.selected.length = g.selectedCount := by
  have counted (options : List Toggle) (first : Nat) :
      ((options.zipIdx first).filterMap fun e => if e.1.selected then some e.2 else none).length =
        options.countP Toggle.selected := by
    induction options generalizing first with
    | nil => rfl
    | cons t rest ih =>
      cases chosen : t.selected <;> simp [List.zipIdx_cons, chosen, ih]
  exact counted g.options 0

theorem Sound.nodup {g : Multi} (h : g.Sound) : g.order.Nodup :=
  h.perm.nodup_iff.2 List.nodup_range

theorem Sound.lt_of_shown {g : Multi} (h : g.Sound) {id option : Nat}
    (shown : g.order[id]? = some option) : option < g.options.length :=
  List.mem_range.1 (h.perm.mem_iff.1 (List.mem_of_getElem? shown))

theorem Sound.confirmButton_eq {g : Multi} (h : g.Sound) :
    g.confirmButton = g.options.length := by
  simpa [confirmButton] using h.perm.length_eq

theorem buttonFor_iff_of_nodup {g : Multi} (nodup : g.order.Nodup) {option id : Nat} :
    g.buttonFor? option = some id ↔ g.order[id]? = some option := by
  rw [buttonFor?, List.idxOf?_eq_some_iff, List.getElem?_eq_some_iff]
  constructor
  · rintro ⟨lt, same, -⟩
    exact ⟨lt, same⟩
  · rintro ⟨lt, same⟩
    -- the first place that shows the option is the only one
    refine ⟨lt, same, fun earlier before again => ?_⟩
    exact absurd (nodup.getElem_inj_iff.1 (again.trans same.symm)) (Nat.ne_of_lt before)

theorem Sound.buttonFor_iff {g : Multi} (h : g.Sound) {option id : Nat} :
    g.buttonFor? option = some id ↔ g.order[id]? = some option := buttonFor_iff_of_nodup h.nodup

theorem map_set_of_nodup {α β : Type} {l : List α} (nodup : l.Nodup) {f f' : α → β} {i : Nat}
    {a : α} (found : l[i]? = some a) (same : ∀ b, b ≠ a → f' b = f b) :
    l.map f' = (l.map f).set i (f' a) := by
  obtain ⟨lt, rfl⟩ := List.getElem?_eq_some_iff.1 found
  refine List.ext_getElem (by simp) fun j hj _ => ?_
  rw [List.getElem_set]
  have hj : j < l.length := by simpa using hj
  split
  · next place => simp [← place]
  · next other =>
    simp only [List.getElem_map]
    exact same _ fun again => other (nodup.getElem_inj_iff.1 again).symm

end Multi

theorem leadingTo_ne_toggled {destination : String} {verdict : Option Verdict} {option : Nat}
    {state : ButtonState} : Response.leadingTo destination verdict ≠ .toggled option state := by
  unfold Response.leadingTo
  split <;> simp

namespace Multi

/-- What a toggle does to a gate: nothing, or the option at the place is selected or taken back. -/
theorem toggle_cases (g : Multi) (id : Nat) :
    (∃ reason, g.toggle id = (.refused reason, g)) ∨
      ∃ option selected, g.order[id]? = some option ∧ option < g.options.length ∧
        g.toggle id = (.toggled option (if selected then .selected else .idle),
          g.setSelected option selected) := by
  unfold toggle
  split
  · exact .inl ⟨_, rfl⟩
  · next option shown =>
    split
    · exact .inl ⟨_, rfl⟩
    · next t found =>
      have lt := (List.getElem?_eq_some_iff.1 found).1
      split
      · exact .inr ⟨option, false, shown, lt, rfl⟩
      · split
        · exact .inl ⟨_, rfl⟩
        · exact .inr ⟨option, true, shown, lt, rfl⟩

theorem label_setSelected (g : Multi) (option : Nat) (selected : Bool) (other : Nat) :
    (g.setSelected option selected).label other = g.label other := by
  simp only [label, setSelected, List.getElem?_modify]
  by_cases same : option = other
  · cases g.options[other]? <;> simp [same]
  · simp [same]

def states (g : Multi) : List ButtonState := g.order.map g.stateOf ++ [.idle]

theorem states_setSelected {g : Multi} (h : g.Sound) {id option : Nat}
    (shown : g.order[id]? = some option) (selected : Bool) :
    (g.setSelected option selected).states =
      g.states.set id (if selected then .selected else .idle) := by
  have lt := h.lt_of_shown shown
  have place : id < (g.order.map g.stateOf).length := by
    simpa using (List.getElem?_eq_some_iff.1 shown).1
  have chosen : (g.setSelected option selected).stateOf option =
      if selected then .selected else .idle := by
    simp only [stateOf, isSelected_setSelected lt, if_true]
  have others (b : Nat) (other : b ≠ option) :
      (g.setSelected option selected).stateOf b = g.stateOf b := by
    simp only [stateOf, isSelected_setSelected lt, if_neg other]
  -- of two options none has the place of the other, so that one state changes
  rw [states, states, List.set_append_left _ _ place, ← chosen]
  exact congrArg (· ++ _) (map_set_of_nodup h.nodup shown others)

end Multi

def states : Gate → List ButtonState
  | .single g => g.choices.map fun _ => .idle
  | .multi g => g.states

theorem press_kept {g : Gate} {id : Nat}
    (quiet : ∀ option state, (g.press id).1 ≠ .toggled option state) : (g.press id).2 = g := by
  cases g with
  | single g => rfl
  | multi g =>
    simp only [press, Multi.press] at quiet ⊢
    split
    · rfl
    · next other =>
      simp only [other, if_false] at quiet
      obtain ⟨reason, kept⟩ | ⟨option, selected, -, -, toggled⟩ := g.toggle_cases id
      · rw [kept]
      · rw [toggled] at quiet
        exact absurd rfl (quiet _ _)

theorem press_toggled {g : Gate} (h : g.Sound) {id option : Nat} {state : ButtonState}
    (pressed : (g.press id).1 = .toggled option state) (layout : GateLayout Float32)
    (canvas : CanvasSize) :
    (g.press id).2.buttons layout canvas = g.buttons layout canvas ∧
      (g.press id).2.states = g.states.set id state := by
  cases g with
  | single g =>
    simp only [press, Single.press] at pressed
    split at pressed
    · exact absurd pressed leadingTo_ne_toggled
    · cases pressed
  | multi g =>
    simp only [press, Multi.press] at pressed ⊢
    split at pressed
    · simp only [Multi.confirm] at pressed
      split at pressed
      · cases pressed
      · exact absurd pressed leadingTo_ne_toggled
    · next other =>
      simp only [other, if_false]
      obtain ⟨reason, kept⟩ | ⟨option, selected, shown, -, toggled⟩ := g.toggle_cases id
      · rw [kept] at pressed
        cases pressed
      · rw [toggled] at pressed ⊢
        cases pressed
        refine ⟨?_, Multi.states_setSelected h shown selected⟩
        simp only [buttons, Multi.buttons, Multi.label_setSelected]
        rfl

theorem map_zipIdx_numbered {α : Type} (l : List α) {button : α × Nat → Button}
    (number : ∀ x, (button x).id = x.2) :
    (l.zipIdx.map button).map Button.id = List.range l.length := by
  rw [List.map_map, List.range_eq_range', ← List.zipIdx_map_snd]
  exact List.map_congr_left fun x _ => number x

variable (layout : GateLayout Float32) (canvas : CanvasSize)

theorem numbered {g : Gate} (h : g.Sound) :
    (g.buttons layout canvas).map Button.id = List.range g.buttonCount := by
  cases g with
  | single g => exact map_zipIdx_numbered g.choices fun _ => rfl
  | multi g =>
    have count : g.order.length = g.options.length := h.confirmButton_eq
    simp only [buttons, Multi.buttons, List.map_append, List.map_singleton, buttonCount,
      Multi.confirmButton, ← count, List.range_succ]
    congr 1
    exact map_zipIdx_numbered g.order fun _ => rfl

theorem length_buttons {g : Gate} (h : g.Sound) :
    (g.buttons layout canvas).length = g.buttonCount := by
  simpa using congrArg List.length (numbered layout canvas h)

theorem length_states {g : Gate} (h : g.Sound) : g.states.length = g.buttonCount := by
  cases g with
  | single g => simp [states, buttonCount]
  | multi g => simp [states, Multi.states, buttonCount, ← h.confirmButton_eq, Multi.confirmButton]

/-- A gate is shown with its buttons, each in the state of its option. -/
def shown (g : Gate) : List (Button × ButtonState) := (g.buttons layout canvas).zip g.states

theorem idle_of_opens {e : Event} {g : Gate} (h : e.Opens g) : ∀ s ∈ g.states, s = .idle := by
  cases h with
  | choice nonempty => simp [states]
  | multiChoice nonempty perm =>
    simp only [states, Multi.states, List.mem_append, List.mem_map, List.mem_singleton]
    rintro s (⟨option, -, rfl⟩ | rfl)
    · simp [Multi.stateOf, Multi.isSelected, Multi.ofOrder, Option.any_map]
    · rfl

theorem shown_of_opens {e : Event} {g : Gate} (h : e.Opens g) :
    g.shown layout canvas = (g.buttons layout canvas).map (·, .idle) := by
  have sound := sound_of_opens h
  have states : g.states = (g.buttons layout canvas).map fun _ => .idle := by
    rw [List.map_const', length_buttons layout canvas sound, ← length_states sound]
    exact List.eq_replicate_iff.2 ⟨rfl, idle_of_opens h⟩
  rw [shown, states]
  exact List.map_prod_left_eq_zip.symm

/-- The screen follows the gate when the state of the pressed button is set. -/
theorem shown_press {g : Gate} (h : g.Sound) {id option : Nat} {state : ButtonState}
    (pressed : (g.press id).1 = .toggled option state) :
    (g.press id).2.shown layout canvas = Stage.setState id state (g.shown layout canvas) := by
  obtain ⟨buttons, states⟩ := press_toggled h pressed layout canvas
  have numbers : (g.buttons layout canvas).map Button.id =
      List.range' 0 (g.buttons layout canvas).length := by
    rw [numbered layout canvas h, length_buttons layout canvas h, List.range_eq_range']
  rw [shown, buttons, states, shown]
  simpa using (Stage.setState_zip numbers g.states id state).symm

end Gate

end VisualNovel
