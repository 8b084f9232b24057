import VisualNovel.Proofs.Gate.Screen

namespace VisualNovel.Gate

namespace Multi

/-- A gate for a set. It can differ from the one that was opened in what is selected. -/
def Serves (set : MultiChoiceSet) (order : List Nat) (g : Multi) : Prop :=
  ∃ options : List Toggle, options.map Toggle.choice = set.choices ∧
    g = { ofOrder set order with options }

theorem serves_ofOrder (set : MultiChoiceSet) (order : List Nat) :
    Serves set order (ofOrder set order) := by
  refine ⟨(ofOrder set order).options, ?_, rfl⟩
  simp [ofOrder, Function.comp_def]

theorem map_choice_setSelected (g : Multi) (option : Nat) (selected : Bool) :
    (g.setSelected option selected).options.map Toggle.choice = g.options.map Toggle.choice := by
  refine List.ext_getElem? fun i => ?_
  simp only [setSelected, List.getElem?_map, List.getElem?_modify]
  cases g.options[i]? with
  | none => rfl
  | some t => by_cases same : option = i <;> simp [same]

variable {set : MultiChoiceSet} {order : List Nat} {g : Multi}

theorem Serves.press (h : Serves set order g) (id : Nat) : Serves set order (g.press id).2 := by
  unfold Multi.press
  split
  · exact h
  · obtain ⟨reason, kept⟩ | ⟨option, selected, -, -, toggled⟩ := g.toggle_cases id
    · rwa [kept]
    · obtain ⟨options, choices, rfl⟩ := h
      rw [toggled]
      exact ⟨_, (map_choice_setSelected _ option selected).trans choices, rfl⟩

theorem Serves.order_eq (h : Serves set order g) : g.order = order := by
  obtain ⟨options, -, rfl⟩ := h
  rfl

theorem Serves.length (h : Serves set order g) : g.options.length = set.choices.length := by
  obtain ⟨options, choices, rfl⟩ := h
  simp [← choices]

theorem Serves.choice (h : Serves set order g) (option : Nat) :
    set.choices[option]? = g.options[option]?.map Toggle.choice := by
  obtain ⟨options, choices, rfl⟩ := h
  simp [← choices]

/-- What somebody can be up to at a gate, whatever the order of its buttons. -/
inductive Intent where
  | toggle (option : Nat)
  | confirm
  /-- To press a number beyond those of all buttons. -/
  | miss (beyond : Nat)

def Intent.button? (g : Multi) : Intent → Option Nat
  | .toggle option => g.buttonFor? option
  | .confirm => some g.confirmButton
  | .miss beyond => some (g.confirmButton + 1 + beyond)

/-- Press the button for an intent. Nothing comes of one that has no button. -/
def act (g : Multi) (i : Intent) : Option Response × Multi :=
  match i.button? g with
  | none => (none, g)
  | some id => (some (g.press id).1, (g.press id).2)

def actAll (g : Multi) : List Intent → List (Option Response) × Multi
  | [] => ([], g)
  | i :: rest => ((g.act i).1 :: ((g.act i).2.actAll rest).1, ((g.act i).2.actAll rest).2)

theorem Serves.act (h : Serves set order g) (i : Intent) : Serves set order (g.act i).2 := by
  unfold Multi.act
  split
  · exact h
  · exact h.press _

theorem Serves.actAll (h : Serves set order g) (intents : List Intent) :
    Serves set order (g.actAll intents).2 := by
  induction intents generalizing g with
  | nil => exact h
  | cons i rest ih => exact ih (h.act i)

def reordered (g : Multi) (order : List Nat) : Multi := { g with order }

/-- Select an option or take it back, without a look at where it is shown. -/
def flip (g : Multi) (option : Nat) : Response × Multi :=
  match g.options[option]? with
  | none => (.refused .ignored, g)
  | some t =>
    if t.selected then (.toggled option .idle, g.setSelected option false)
    else if g.isFull then (.refused .rejected, g)
    else (.toggled option .selected, g.setSelected option true)

theorem toggle_eq_flip {id option : Nat} (shown : g.order[id]? = some option) :
    g.toggle id = g.flip option := by
  simp only [toggle, shown]
  rfl

theorem flip_reordered (g : Multi) (order : List Nat) (option : Nat) :
    (g.reordered order).flip option = ((g.flip option).1, (g.flip option).2.reordered order) := by
  have options : (g.reordered order).options = g.options := rfl
  have full : (g.reordered order).isFull = g.isFull := rfl
  simp only [flip, options, full]
  split
  · rfl
  · split
    · rfl
    · split <;> rfl

theorem buttonFor_of_perm (perm : g.order.Perm (.range g.options.length)) {option id : Nat} :
    g.buttonFor? option = some id ↔ g.order[id]? = some option :=
  buttonFor_iff_of_nodup (perm.nodup_iff.2 List.nodup_range)

theorem exists_button_iff (perm : g.order.Perm (.range g.options.length)) {option : Nat} :
    (∃ id, g.buttonFor? option = some id) ↔ option < g.options.length := by
  simp only [buttonFor_of_perm perm, ← List.mem_iff_getElem?, perm.mem_iff, List.mem_range]

/-- What comes of an intent, without a look at where options are shown. -/
theorem act_eq (perm : g.order.Perm (.range g.options.length)) (i : Intent) :
    g.act i = match i with
      | .toggle option =>
        if option < g.options.length then (some (g.flip option).1, (g.flip option).2) else (none, g)
      | .confirm => (some g.confirm, g)
      | .miss _ => (some (.refused .ignored), g) := by
  cases i with
  | toggle option =>
    by_cases lt : option < g.options.length
    · obtain ⟨id, button⟩ := (exists_button_iff perm).2 lt
      have shown := (buttonFor_of_perm perm).1 button
      have other : id ≠ g.confirmButton :=
        Nat.ne_of_lt (List.getElem?_eq_some_iff.1 shown).1
      simp only [act, Intent.button?, button, press, if_neg other, toggle_eq_flip shown, if_pos lt]
    · have none : g.buttonFor? option = none := by
        refine Option.eq_none_iff_forall_ne_some.2 fun id button => lt ?_
        exact (exists_button_iff perm).1 ⟨id, button⟩
      simp only [act, Intent.button?, none, if_neg lt]
  | confirm => simp only [act, Intent.button?, press, if_true]
  | miss beyond =>
    have other : g.confirmButton + 1 + beyond ≠ g.confirmButton := by omega
    have nothing : g.order[g.confirmButton + 1 + beyond]? = none :=
      List.getElem?_eq_none (by simp only [confirmButton]; omega)
    simp only [act, Intent.button?, press, if_neg other, toggle, nothing]

theorem act_reordered (perm : g.order.Perm (.range g.options.length))
    (perm' : order.Perm (.range g.options.length)) (i : Intent) :
    (g.reordered order).act i = ((g.act i).1, (g.act i).2.reordered order) := by
  have there : (g.reordered order).order.Perm (.range (g.reordered order).options.length) := perm'
  have options : (g.reordered order).options = g.options := rfl
  rw [act_eq perm, act_eq there]
  cases i with
  | toggle option =>
    simp only [options, flip_reordered]
    split <;> rfl
  | confirm => rfl
  | miss beyond => rfl

theorem actAll_reordered {p : List Nat} (h : Serves set p g)
    (hp : p.Perm (.range set.choices.length)) (hq : order.Perm (.range set.choices.length))
    (intents : List Intent) : (g.reordered order).actAll intents =
      ((g.actAll intents).1, (g.actAll intents).2.reordered order) := by
  induction intents generalizing g with
  | nil => rfl
  | cons i rest ih =>
    have there : g.order.Perm (.range g.options.length) := by rwa [h.order_eq, h.length]
    have there' : order.Perm (.range g.options.length) := by rwa [h.length]
    have step := act_reordered there there' i
    simp only [actAll, step, ih (h.act i)]

/-- What the grade of a selection tells about the options of a set. -/
structure Grades (set : MultiChoiceSet) (chosen : List Nat) (verdict : Verdict) : Prop where
  selected : verdict.selected = chosen
  correct_iff : verdict.correct = true ↔
    ∀ option, option ∈ chosen ↔ ∃ c, set.choices[option]? = some c ∧ c.correct = true
  contraindicated_iff : verdict.contraindicated = true ↔
    ∃ option ∈ chosen, ∃ c, set.choices[option]? = some c ∧ c.contraindication = true

theorem mem_selected_iff_of_found {option : Nat} {t : Toggle}
    (found : g.options[option]? = some t) : option ∈ g.selected ↔ t.selected = true := by
  simp [mem_selected_iff, isSelected, found]

theorem Serves.grades (h : Serves set order g) : Grades set g.selected g.grade := by
  refine ⟨rfl, ?_, ?_⟩
  · simp only [grade, List.all_eq_true, beq_iff_eq, h.choice]
    constructor
    · intro alike option
      cases found : g.options[option]? with
      | none => simp [mem_selected_iff, isSelected, found]
      | some t => simp [mem_selected_iff_of_found found, alike t (List.mem_of_getElem? found)]
    · intro same t mem
      obtain ⟨option, found⟩ := List.mem_iff_getElem?.1 mem
      have alike := same option
      rw [mem_selected_iff_of_found found, found] at alike
      exact Bool.eq_iff_iff.2 (by simpa using alike)
  · simp only [grade, List.any_eq_true, Bool.and_eq_true, h.choice]
    constructor
    · rintro ⟨t, mem, selected, contraindicated⟩
      obtain ⟨option, found⟩ := List.mem_iff_getElem?.1 mem
      refine ⟨option, (mem_selected_iff_of_found found).2 selected, t.choice, ?_, contraindicated⟩
      rw [found, Option.map_some]
    · rintro ⟨option, mem, c, choice, contraindicated⟩
      obtain ⟨t, found, rfl⟩ := Option.map_eq_some_iff.1 choice
      have selected := (mem_selected_iff_of_found found).1 mem
      exact ⟨t, List.mem_of_getElem? found, selected, contraindicated⟩

/-- Where a set leads with a selection. -/
def keyFor (set : MultiChoiceSet) (correct : Bool) : String :=
  if correct then set.correctKey else set.incorrectKey

theorem leadingTo_eq (key : String) (verdict : Option Verdict) : Response.leadingTo key verdict =
    if key = "" then .fallback verdict else .resolved key verdict := by
  simp [Response.leadingTo]

/-- The button that confirms asks for enough options, and then leads where the grade says. -/
theorem Serves.confirms (h : Serves set order g) : (g.press g.confirmButton).1 =
    if g.selected.length < set.minSelect then .refused .belowMinimum
    else if keyFor set g.grade.correct = "" then .fallback (some g.grade)
    else .resolved (keyFor set g.grade.correct) (some g.grade) := by
  rw [length_selected, ← leadingTo_eq]
  obtain ⟨options, -, rfl⟩ := h
  simp only [Multi.press, if_true, confirm]
  rfl

/-- Gates for a set that show its options in different orders answer alike, whatever is meant by the
presses: they give the same responses one by one, have the same options selected, and grade them
alike. The grade is about the options, and the button that confirms leads where the grade says, or
nowhere when the key for it is empty. -/
theorem answers_ignore_order {set : MultiChoiceSet} {p q : List Nat}
    (hp : p.Perm (.range set.choices.length)) (hq : q.Perm (.range set.choices.length))
    (intents : List Intent) {g h : Multi} {responses responses' : List (Option Response)}
    (first : (ofOrder set p).actAll intents = (responses, g))
    (second : (ofOrder set q).actAll intents = (responses', h)) :
    responses = responses' ∧ g.selected = h.selected ∧ g.grade = h.grade ∧
      Grades set g.selected g.grade ∧
      (g.press g.confirmButton).1 = (h.press h.confirmButton).1 ∧
      ((g.press g.confirmButton).1 =
        if g.selected.length < set.minSelect then .refused .belowMinimum
        else if keyFor set g.grade.correct = "" then .fallback (some g.grade)
        else .resolved (keyFor set g.grade.correct) (some g.grade)) ∧
      ∀ option, ((∃ id, g.buttonFor? option = some id) ↔ option < set.choices.length) ∧
        ((∃ id, h.buttonFor? option = some id) ↔ option < set.choices.length) := by
  have serves : Serves set p g := by
    simpa only [first] using (serves_ofOrder set p).actAll intents
  have serves' : Serves set q h := by
    simpa only [second] using (serves_ofOrder set q).actAll intents
  -- the second gate is the first one in another order, from the opening on
  have alike := actAll_reordered (serves_ofOrder set p) hp hq intents
  rw [first] at alike
  obtain ⟨rfl, rfl⟩ := Prod.mk.inj (second.symm.trans alike)
  refine ⟨rfl, rfl, rfl, serves.grades, ?_, serves.confirms, fun option => ⟨?_, ?_⟩⟩
  · rw [serves.confirms, serves'.confirms]
    rfl
  · rw [← serves.length]
    exact exists_button_iff (by rwa [serves.order_eq, serves.length])
  · rw [← serves'.length]
    exact exists_button_iff (by rwa [serves'.order_eq, serves'.length])

/-- Two of three options are correct, and one or two may be selected. -/
def vegetables : MultiChoiceSet where
  choices := [⟨"Carrot", true, false, some 2⟩, ⟨"Apple", false, true, none⟩,
    ⟨"Leek", true, false, none⟩]
  correctKey := "soup"
  incorrectKey := ""
  minSelect := 1
  maxSelect := some 2

/-- Confirmed too early, an option too many, one taken back, and a number that no button has. -/
theorem vegetables_answer_alike :
    ∃ g h responses,
      (ofOrder vegetables [2, 0, 1]).actAll
        [.confirm, .toggle 0, .toggle 1, .toggle 2, .toggle 1, .toggle 2, .miss 0] =
          (responses, g) ∧
      (ofOrder vegetables [1, 2, 0]).actAll
        [.confirm, .toggle 0, .toggle 1, .toggle 2, .toggle 1, .toggle 2, .miss 0] =
          (responses, h) ∧
      responses = [some (.refused .belowMinimum), some (.toggled 0 .selected),
        some (.toggled 1 .selected), some (.refused .rejected), some (.toggled 1 .idle),
        some (.toggled 2 .selected), some (.refused .ignored)] ∧
      g.selected = [0, 2] ∧ h.selected = [0, 2] ∧ g.grade.correct = true ∧
      (g.press 3).1 = .resolved "soup" (some g.grade) ∧
      (h.press 3).1 = .resolved "soup" (some g.grade) := by
  have first : ∃ g responses, (ofOrder vegetables [2, 0, 1]).actAll
      [.confirm, .toggle 0, .toggle 1, .toggle 2, .toggle 1, .toggle 2, .miss 0] = (responses, g) ∧
      responses = [some (.refused .belowMinimum), some (.toggled 0 .selected),
        some (.toggled 1 .selected), some (.refused .rejected), some (.toggled 1 .idle),
        some (.toggled 2 .selected), some (.refused .ignored)] ∧
      g.selected = [0, 2] ∧ g.grade.correct = true ∧ g.confirmButton = 3 :=
    ⟨_, _, rfl, rfl, rfl, rfl, rfl⟩
  obtain ⟨g, responses, first, told, selected, correct, three⟩ := first
  have second : ∃ h responses', (ofOrder vegetables [1, 2, 0]).actAll
      [.confirm, .toggle 0, .toggle 1, .toggle 2, .toggle 1, .toggle 2, .miss 0] =
        (responses', h) ∧ h.confirmButton = 3 := ⟨_, _, rfl, rfl⟩
  obtain ⟨h, responses', second, three'⟩ := second
  obtain ⟨same, selected', -, -, confirmed, leads, -⟩ :=
    answers_ignore_order (by decide) (by decide) _ first second
  rw [three, three'] at confirmed
  rw [three, selected, correct] at leads
  refine ⟨g, h, responses, first, same ▸ second, told, selected, selected'.symm.trans selected,
    correct, leads, ?_⟩
  rw [← confirmed, leads]
  rfl

end Multi

end VisualNovel.Gate
