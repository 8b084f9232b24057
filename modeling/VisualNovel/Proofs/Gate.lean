import VisualNovel.Gate.Basic

/-!
What the gates of a run have in common, whatever was pressed: a gate has options, each is shown at
one place, and no more of them are selected than may be.
-/

namespace VisualNovel

/-- The gates that an event can open, with the options of a set in any order. -/
inductive Event.Opens : Event → Gate → Prop where
  | choice {options : List Choice} (nonempty : options ≠ []) :
      Opens (.choice options) (.single ⟨options⟩)
  | multiChoice {set : MultiChoiceSet} {order : List Nat} (nonempty : set.choices ≠ [])
      (perm : order.Perm (.range set.choices.length)) :
      Opens (.multiChoice set) (.multi (.ofOrder set order))

namespace Gate

theorem leadingTo_ne_refused {destination : String} {verdict : Option Verdict} {reason : Refusal} :
    Response.leadingTo destination verdict ≠ .refused reason := by
  unfold Response.leadingTo
  split <;> simp

namespace Multi

theorem forSet_order_perm (set : MultiChoiceSet) (r : Random) :
    ∃ order, (forSet set r).1 = .ofOrder set order ∧
      order.Perm (.range set.choices.length) := by
  unfold forSet
  dsimp only
  split
  · exact ⟨_, rfl, Random.shuffle_perm r _⟩
  · exact ⟨_, rfl, .refl _⟩

theorem countP_modify {α : Type} {f : α → α} {keep : α → Bool} {l : List α} {i : Nat} {x : α}
    (h : l[i]? = some x) :
    (l.modify i f).countP keep + (keep x).toNat = l.countP keep + (keep (f x)).toNat := by
  induction l generalizing i with
  | nil => simp at h
  | cons y rest ih =>
    cases i with
    | zero =>
      cases h
      cases hx : keep x <;> cases hf : keep (f x) <;> simp [hx, hf]
    | succ i =>
      have tail := ih h
      simp only [List.modify_succ_cons, List.countP_cons]
      omega

theorem selectedCount_setSelected {g : Multi} {option : Nat} {t : Toggle} (selected : Bool)
    (h : g.options[option]? = some t) :
    (g.setSelected option selected).selectedCount + t.selected.toNat =
      g.selectedCount + selected.toNat :=
  countP_modify h

/-- What holds of a gate from its opening on. -/
structure Sound (g : Multi) : Prop where
  nonempty : g.options ≠ []
  perm : g.order.Perm (.range g.options.length)
  capped : ∀ max, g.maxSelect = some max → g.selectedCount ≤ max

theorem sound_ofOrder {set : MultiChoiceSet} {order : List Nat} (nonempty : set.choices ≠ [])
    (perm : order.Perm (.range set.choices.length)) : Sound (.ofOrder set order) := by
  refine ⟨by simpa [ofOrder] using nonempty, by simpa [ofOrder] using perm, ?_⟩
  intro max _
  simp [selectedCount, ofOrder, List.countP_map, Function.comp_def]

theorem Sound.setSelected {g : Multi} (h : g.Sound) {option : Nat} {selected : Bool}
    (capped : ∀ max, g.maxSelect = some max → (g.setSelected option selected).selectedCount ≤ max) :
    (g.setSelected option selected).Sound := by
  refine ⟨?_, ?_, capped⟩
  · simpa [Multi.setSelected] using h.nonempty
  · simpa [Multi.setSelected] using h.perm

theorem sound_toggle {g : Multi} (h : g.Sound) (id : Nat) : (g.toggle id).2.Sound := by
  unfold toggle
  split
  · exact h
  · next option _ =>
    split
    · exact h
    · next t ht =>
      split
      · next selected =>
        have count := selectedCount_setSelected false ht
        refine h.setSelected ?_
        intro max hmax
        have := h.capped max hmax
        simp only [selected, Bool.toNat_true, Bool.toNat_false] at count
        omega
      · next selected =>
        split
        · exact h
        · next open_ =>
          have count := selectedCount_setSelected true ht
          refine h.setSelected ?_
          intro max hmax
          have room : ¬ max ≤ g.selectedCount := by simpa [isFull, hmax] using open_
          simp only [Bool.not_eq_true] at selected
          simp only [selected, Bool.toNat_true, Bool.toNat_false] at count
          omega

theorem sound_press {g : Multi} (h : g.Sound) (id : Nat) : (g.press id).2.Sound := by
  unfold press
  split
  · exact h
  · exact sound_toggle h id

/-- The bounds on a selection can both be kept. -/
def Satisfiable (g : Multi) : Prop := ∀ max, g.maxSelect = some max → g.minSelect ≤ max

theorem satisfiable_press {g : Multi} (h : g.Satisfiable) (id : Nat) :
    (g.press id).2.Satisfiable := by
  unfold press
  split
  · exact h
  · unfold toggle
    split
    · exact h
    · split
      · exact h
      · split
        · exact h
        · split <;> exact h

/-- A selection that was accepted keeps both bounds. -/
theorem satisfiable_of_fallback {g : Multi} (h : g.Sound) {id : Nat} {verdict : Option Verdict}
    (pressed : (g.press id).1 = .fallback verdict) : g.Satisfiable := by
  intro max hmax
  have capped := h.capped max hmax
  have enough : ¬ g.selectedCount < g.minSelect := by
    intro short
    unfold press at pressed
    split at pressed
    · simp [confirm, short] at pressed
    · unfold toggle at pressed
      repeat' split at pressed
      all_goals cases pressed
  omega

theorem exists_shown {g : Multi} (h : g.Sound) {option : Nat} (lt : option < g.options.length) :
    ∃ id, id ≠ g.confirmButton ∧ g.order[id]? = some option := by
  have mem : option ∈ g.order := h.perm.mem_iff.2 (List.mem_range.2 lt)
  obtain ⟨id, hid, shown⟩ := List.getElem_of_mem mem
  exact ⟨id, Nat.ne_of_lt hid, by simp [hid, shown]⟩

/-- Some button of a gate whose bounds can be kept is not refused. -/
theorem exists_accepted {g : Multi} (h : g.Sound) (bounds : g.Satisfiable) :
    ∃ id, ∀ reason, (g.press id).1 ≠ .refused reason := by
  by_cases selected : ∃ t ∈ g.options, t.selected = true
  · -- a selected option can be taken back
    obtain ⟨t, ht, selected⟩ := selected
    obtain ⟨option, lt, rfl⟩ := List.getElem_of_mem ht
    obtain ⟨id, other, shown⟩ := exists_shown h lt
    refine ⟨id, ?_⟩
    intro reason
    simp [press, other, toggle, shown, lt, selected]
  · have none_selected : g.selectedCount = 0 := by
      simpa [selectedCount, List.countP_eq_zero] using selected
    cases full : g.isFull with
    | true =>
      -- nothing may be selected, so that nothing has to be
      obtain ⟨max, hmax, zero⟩ : ∃ max, g.maxSelect = some max ∧ max ≤ g.selectedCount := by
        simpa [isFull, Option.any_eq_true] using full
      have enough : ¬ g.selectedCount < g.minSelect := by
        have := bounds max hmax
        omega
      refine ⟨g.confirmButton, ?_⟩
      intro reason
      simp only [press, if_true, confirm, if_neg enough]
      exact leadingTo_ne_refused
    | false =>
      have lt : 0 < g.options.length := List.length_pos_iff.2 h.nonempty
      obtain ⟨id, other, shown⟩ := exists_shown h lt
      have idle : g.options[0].selected = false :=
        Bool.eq_false_iff.2 fun found => selected ⟨_, List.getElem_mem lt, found⟩
      refine ⟨id, ?_⟩
      intro reason
      simp [press, other, toggle, shown, lt, idle, full]

end Multi

def Sound : Gate → Prop
  | .single g => g.choices ≠ []
  | .multi g => g.Sound

def Satisfiable : Gate → Prop
  | .single _ => True
  | .multi g => g.Satisfiable

theorem sound_of_opens {e : Event} {g : Gate} (h : e.Opens g) : g.Sound := by
  cases h with
  | choice nonempty => exact nonempty
  | multiChoice nonempty perm => exact Multi.sound_ofOrder nonempty perm

theorem sound_press {g : Gate} (h : g.Sound) (id : Nat) : (g.press id).2.Sound := by
  cases g with
  | single g => exact h
  | multi g => exact Multi.sound_press h id

theorem satisfiable_press {g : Gate} (h : g.Satisfiable) (id : Nat) :
    (g.press id).2.Satisfiable := by
  cases g with
  | single g => trivial
  | multi g => exact Multi.satisfiable_press h id

theorem satisfiable_of_fallback {g : Gate} (h : g.Sound) {id : Nat} {verdict : Option Verdict}
    (pressed : (g.press id).1 = .fallback verdict) : g.Satisfiable := by
  cases g with
  | single g => trivial
  | multi g => exact Multi.satisfiable_of_fallback h pressed

theorem exists_accepted {g : Gate} (h : g.Sound) (bounds : g.Satisfiable) :
    ∃ id, ∀ reason, (g.press id).1 ≠ .refused reason := by
  cases g with
  | single g =>
    obtain ⟨choice, rest, nonempty⟩ := List.exists_cons_of_ne_nil h
    refine ⟨0, ?_⟩
    intro reason
    simp only [press, Single.press, nonempty, List.getElem?_cons_zero]
    exact leadingTo_ne_refused
  | multi g => exact Multi.exists_accepted h bounds

end Gate

end VisualNovel
