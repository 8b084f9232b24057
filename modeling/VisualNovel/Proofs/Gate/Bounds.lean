import VisualNovel.Proofs.Gate.Grading

namespace VisualNovel

/-- Some of the options are as many as have to be and no more than may be. -/
def MultiChoiceSet.Answerable (set : MultiChoiceSet) : Prop :=
  set.minSelect ≤ set.choices.length ∧ ∀ max, set.maxSelect = some max → set.minSelect ≤ max

/-- The selection is graded, and leads to a timeline or nowhere. -/
def Gate.Response.Leaves (response : Gate.Response) : Prop :=
  (∃ key verdict, response = .resolved key verdict) ∨ ∃ verdict, response = .fallback verdict

namespace Gate.Multi

variable {set : MultiChoiceSet} {order : List Nat} {g : Multi}

def pressAll (g : Multi) (ids : List Nat) : Multi := ids.foldl (fun g id => (g.press id).2) g

/-- What the button that confirms answers after some presses. -/
def confirmAfter (g : Multi) (ids : List Nat) : Response :=
  ((g.pressAll ids).press (g.pressAll ids).confirmButton).1

theorem Serves.pressAll (h : Serves set order g) (ids : List Nat) :
    Serves set order (g.pressAll ids) := by
  induction ids generalizing g with
  | nil => exact h
  | cons id rest ih => exact ih (h.press id)

theorem Sound.pressAll (h : g.Sound) (ids : List Nat) : (g.pressAll ids).Sound := by
  induction ids generalizing g with
  | nil => exact h
  | cons id rest ih => exact ih (sound_press h id)

theorem Serves.maxSelect_eq (h : Serves set order g) : g.maxSelect = set.maxSelect := by
  obtain ⟨options, -, rfl⟩ := h
  rfl

theorem Serves.too_few (h : Serves set order g) (sound : g.Sound) (never : ¬ set.Answerable) :
    g.selected.length < set.minSelect := by
  rw [length_selected]
  have available : g.selectedCount ≤ set.choices.length := h.length ▸ List.countP_le_length
  by_contra enough
  refine never ⟨by omega, fun max hmax => ?_⟩
  have capped := sound.capped max (h.maxSelect_eq.trans hmax)
  omega

/-- Such a gate is not left with any button. -/
theorem Serves.stuck (h : Serves set order g) (sound : g.Sound) (never : ¬ set.Answerable)
    (id : Nat) : ¬ (g.press id).1.Leaves := by
  by_cases confirms : id = g.confirmButton
  · rw [confirms, h.confirms, if_pos (h.too_few sound never)]
    simp [Response.Leaves]
  · rw [Multi.press, if_neg confirms]
    obtain ⟨reason, kept⟩ | ⟨option, selected, -, -, toggled⟩ := g.toggle_cases id
    · simp [kept, Response.Leaves]
    · simp [toggled, Response.Leaves]

/-- While too few options are selected there is another one that can be. -/
theorem Serves.exists_more (h : Serves set order g) (sound : g.Sound) (able : set.Answerable)
    (few : g.selectedCount < set.minSelect) :
    ∃ id, (g.press id).2.selectedCount = g.selectedCount + 1 := by
  have room : g.selectedCount < g.options.length := by
    have := able.1
    rw [h.length]
    omega
  -- not all options are selected, for there are more of them
  obtain ⟨t, mem, idle⟩ : ∃ t ∈ g.options, t.selected = false := by
    by_contra all
    have every : g.selectedCount = g.options.length :=
      List.countP_eq_length.2 fun t mem => by
        by_contra idle
        exact all ⟨t, mem, Bool.eq_false_iff.2 idle⟩
    omega
  obtain ⟨option, lt, rfl⟩ := List.getElem_of_mem mem
  obtain ⟨id, other, shown⟩ := exists_shown sound lt
  have open_ : g.isFull = false := by
    rw [isFull, h.maxSelect_eq]
    cases bounded : set.maxSelect with
    | none => rfl
    | some max =>
      have := able.2 max bounded
      rw [Option.any_some, decide_eq_false_iff_not]
      omega
  have pressed : (g.press id).2 = g.setSelected option true := by
    simp [Multi.press, other, toggle, shown, lt, idle, open_]
  have count := selectedCount_setSelected true (List.getElem?_eq_getElem lt)
  refine ⟨id, ?_⟩
  rw [pressed]
  simpa [idle] using count

/-- Any selection can be made up to one of enough options. -/
theorem Serves.exists_enough (h : Serves set order g) (sound : g.Sound) (able : set.Answerable) :
    ∃ more, set.minSelect ≤ (g.pressAll more).selectedCount := by
  induction missing : set.minSelect - g.selectedCount generalizing g with
  | zero => exact ⟨[], by simp only [Multi.pressAll, List.foldl_nil]; omega⟩
  | succ n ih =>
    obtain ⟨id, count⟩ := h.exists_more sound able (by omega)
    obtain ⟨more, enough⟩ := ih (h.press id) (sound_press sound id) (by omega)
    exact ⟨id :: more, enough⟩

theorem Serves.leaves (h : Serves set order g) (enough : set.minSelect ≤ g.selectedCount) :
    (g.press g.confirmButton).1.Leaves := by
  rw [← length_selected] at enough
  rw [h.confirms, if_neg (Nat.not_lt.2 enough)]
  split
  · exact .inr ⟨_, rfl⟩
  · exact .inl ⟨_, _, rfl⟩

theorem Serves.exists_leaving (h : Serves set order g) (sound : g.Sound) (able : set.Answerable)
    (ids : List Nat) : ∃ more, (g.confirmAfter (ids ++ more)).Leaves := by
  obtain ⟨more, enough⟩ := (h.pressAll ids).exists_enough (sound.pressAll ids) able
  refine ⟨more, ?_⟩
  rw [confirmAfter, Multi.pressAll, List.foldl_append]
  exact ((h.pressAll ids).pressAll more).leaves enough

/-- The bounds can be kept unless the button that confirms refuses every selection. -/
theorem Serves.not_answerable_iff (h : Serves set order g) (sound : g.Sound) :
    ¬ set.Answerable ↔ ∀ ids, g.confirmAfter ids = .refused .belowMinimum := by
  constructor
  · intro never ids
    have few := (h.pressAll ids).too_few (sound.pressAll ids) never
    rw [confirmAfter, (h.pressAll ids).confirms, if_pos few]
  · intro refused able
    obtain ⟨more, leaves⟩ := h.exists_leaving sound able []
    simp [refused, Response.Leaves] at leaves

end Gate.Multi

end VisualNovel
