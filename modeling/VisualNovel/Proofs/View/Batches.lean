import VisualNovel.Proofs.Dict
import VisualNovel.View.Basic

namespace VisualNovel

namespace Command

/-- Commands for the text that is shown. -/
def isDialog : Command → Bool
  | .setDialogText _ _ | .clearDialogText => true
  | _ => false

/-- Commands for the name of the speaker. -/
def isSpeaker : Command → Bool
  | .setActorName _ _ | .clearActorName => true
  | _ => false

end Command

/-- A part of a fold that only some of the items matter for, each of which replaces what was there
before: the last of them counts. -/
theorem foldl_of_replaces {α β : Type} {f : β → α → β} {matters : α → Bool}
    (replaces : ∀ a, matters a = true → ∀ x y, f x a = f y a)
    (keeps : ∀ a, matters a = false → ∀ x, f x a = x) (l : List α) (x y : β) :
    l.foldl f x = if l.any matters then l.foldl f y else x := by
  induction l generalizing x y with
  | nil => rfl
  | cons a rest ih =>
    rw [List.foldl_cons, List.foldl_cons, List.any_cons]
    cases m : matters a with
    | true => rw [replaces a m x y, Bool.true_or, if_pos rfl]
    | false => rw [keeps a m x, keeps a m y, Bool.false_or, ih x y]

namespace View

theorem applyAll_append (v : View) (a b : List Command) :
    v.applyAll (a ++ b) = (v.applyAll a).applyAll b := List.foldl_append

theorem effects_append (v : View) (a b : List Command) :
    v.effects (a ++ b) = v.effects a ++ (v.applyAll a).effects b := by
  induction a generalizing v with
  | nil => rfl
  | cons c rest ih => simp [effects, applyAll, ih, List.append_assoc]

@[simp] theorem applyAll_timeline (v : View) (commands : List Command) :
    (v.applyAll commands).timeline = v.timeline := by
  induction commands generalizing v with
  | nil => rfl
  | cons c rest ih =>
    refine (ih (v.apply c)).trans ?_
    cases c <;> rfl

/-- A timeline is new once. -/
theorem newTimeline?_update (v : View) (commands : List Command) (timeline : Option String) :
    (v.update commands timeline).2.newTimeline? timeline = none := by
  simp only [update, newTimeline?, applyAll_timeline]
  by_cases same : timeline = v.timeline
  · simp [same]
  · cases timeline <;> simp [same]

theorem effects_timeline (v : View) (timeline : Option String) (commands : List Command) :
    effects { v with timeline } commands = v.effects commands := by
  induction commands generalizing v with
  | nil => rfl
  | cons c rest ih =>
    have applied : apply { v with timeline } c = { v.apply c with timeline } := by cases c <;> rfl
    have told : effect? { v with timeline } c = v.effect? c := by cases c <;> rfl
    rw [effects, effects, applied, told, ih]

theorem foldl_line (commands : List Command) (before other : Option String) :
    commands.foldl line before =
      if commands.any Command.isDialog then commands.foldl line other else before := by
  refine foldl_of_replaces ?_ ?_ commands before other
  · intro c dialog x y
    cases c with
    | setDialogText text style | clearDialogText => rfl
    | _ => cases dialog
  · intro c other x
    cases c with
    | setDialogText text style | clearDialogText => cases other
    | _ => rfl

theorem foldl_speaker (commands : List Command) (before other : Option String) :
    commands.foldl speaker before =
      if commands.any Command.isSpeaker then commands.foldl speaker other else before := by
  refine foldl_of_replaces ?_ ?_ commands before other
  · intro c named x y
    cases c with
    | setActorName name style | clearActorName => rfl
    | _ => cases named
  · intro c other x
    cases c with
    | setActorName name style | clearActorName => cases other
    | _ => rfl

def shown? (v : View) : Option String := if v.dialog.isEmpty then none else some v.dialog

/-- What is told of a line follows what is shown of it. -/
theorem foldl_line_shown (v : View) (commands : List Command) :
    commands.foldl line v.shown? = (v.applyAll commands).shown? := by
  induction commands generalizing v with
  | nil => rfl
  | cons c rest ih =>
    have step : line v.shown? c = (v.apply c).shown? := by cases c <;> rfl
    rw [List.foldl_cons, step, ih]
    rfl

theorem foldl_speaker_actor (v : View) (commands : List Command) :
    commands.foldl speaker v.actor = (v.applyAll commands).actor := by
  induction commands generalizing v with
  | nil => rfl
  | cons c rest ih =>
    have step : speaker v.actor c = (v.apply c).actor := by cases c <;> rfl
    rw [List.foldl_cons, step, ih]
    rfl

/-- The views show the same images, sounds and links. -/
structure SameScene (v w : View) : Prop where
  background : w.background = v.background
  frame : w.frame = v.frame
  foreground : w.foreground = v.foreground
  sounds : w.sounds = v.sounds
  webLink : w.webLink = v.webLink

theorem SameScene.refl (v : View) : v.SameScene v := ⟨rfl, rfl, rfl, rfl, rfl⟩

theorem SameScene.trans {u v w : View} (first : u.SameScene v) (second : v.SameScene w) :
    u.SameScene w where
  background := second.background.trans first.background
  frame := second.frame.trans first.frame
  foreground := second.foreground.trans first.foreground
  sounds := second.sounds.trans first.sounds
  webLink := second.webLink.trans first.webLink

theorem apply_sameScene {v : View} {c : Command} (silent : v.effect? c = none) :
    v.SameScene (v.apply c) := by
  have same := SameScene.refl v
  cases c with
  | setBackground key position fade =>
    have there : v.background = some key := by simpa [effect?] using silent
    exact { same with background := there.symm }
  | clearBackground =>
    have none : v.background = none := by simpa [effect?] using silent
    exact { same with background := none.symm }
  | setFrame key position =>
    have there : v.frame = some key := by simpa [effect?] using silent
    exact { same with frame := there.symm }
  | clearForeground =>
    have none : v.foreground = [] := by simpa [effect?] using silent
    exact { same with foreground := none.symm }
  | stopSound key =>
    have missing : v.sounds.contains key = false := by simpa [effect?] using silent
    exact { same with sounds := Dict.erase_of_not_contains missing }
  | hideWebLink =>
    have none : v.webLink = none := by simpa [effect?] using silent
    exact { same with webLink := none.symm }
  | addForeground key position => cases silent
  | playSound key looping => cases silent
  | showWebLink link => cases silent
  | setActorName name style | clearActorName | setDialogText text style | clearDialogText
  | addButton button | setButtonState id state | clearButtons | setAdvanceEnabled enabled =>
    exact { same with }

theorem applyAll_sameScene {v : View} {commands : List Command}
    (silent : v.effects commands = []) : v.SameScene (v.applyAll commands) := by
  induction commands generalizing v with
  | nil => exact .refl v
  | cons c rest ih =>
    obtain ⟨first, later⟩ := List.append_eq_nil_iff.1 silent
    exact (apply_sameScene (Option.toList_eq_nil_iff.1 first)).trans (ih later)

/-- Two batches, looked at one after the other, come to the same as both at once. Their effects are
told one after the other, and the line and the speaker by the batch that has a command for them
last. Images, sounds and links of which no effect is told are unchanged, and a batch with a command
for the text tells the text that is left, if there is one. -/
theorem update_append (v : View) (timeline : Option String) :
    (∀ a b : List Command,
      (v.update (a ++ b) timeline).2 = ((v.update a timeline).2.update b timeline).2 ∧
      (v.update (a ++ b) timeline).1 =
        { newTimeline := (v.update a timeline).1.newTimeline
          effects := (v.update a timeline).1.effects ++
            ((v.update a timeline).2.update b timeline).1.effects
          speaker :=
            if b.any Command.isSpeaker then ((v.update a timeline).2.update b timeline).1.speaker
            else (v.update a timeline).1.speaker
          dialog :=
            if b.any Command.isDialog then ((v.update a timeline).2.update b timeline).1.dialog
            else (v.update a timeline).1.dialog } ∧
      ((v.update a timeline).2.update b timeline).1.newTimeline = none) ∧
    ∀ commands : List Command,
      ((v.update commands timeline).1.effects = [] →
        v.SameScene (v.update commands timeline).2) ∧
      (commands.any Command.isSpeaker = true →
        (v.update commands timeline).1.speaker = (v.update commands timeline).2.actor) ∧
      (commands.any Command.isDialog = true →
        (v.update commands timeline).1.dialog = (v.update commands timeline).2.shown?) := by
  let named : View := { v with timeline := v.newTimeline? timeline <|> v.timeline }
  have told (commands : List Command) : v.effects commands = named.effects commands :=
    (v.effects_timeline _ commands).symm
  refine ⟨fun a b => ⟨?_, ?_, v.newTimeline?_update a timeline⟩,
    fun commands => ⟨fun silent => ?_, fun any => ?_, fun any => ?_⟩⟩
  · -- the timeline is not new for the second batch
    have known := v.newTimeline?_update a timeline
    have first : (v.update a timeline).2 = named.applyAll a := rfl
    rw [first] at known ⊢
    simp only [update, known]
    exact applyAll_append named a b
  · have effects : v.effects (a ++ b) = v.effects a ++ (named.applyAll a).effects b := by
      rw [told, told, effects_append]
    have last : (a ++ b).foldl line none =
        if b.any Command.isDialog then b.foldl line none else a.foldl line none := by
      rw [List.foldl_append, foldl_line b _ none]
    have speaking : (a ++ b).foldl speaker none =
        if b.any Command.isSpeaker then b.foldl speaker none else a.foldl speaker none := by
      rw [List.foldl_append, foldl_speaker b _ none]
    simp only [update, effects, last, speaking]
    rfl
  · have same : named.effects commands = [] := (told commands).symm.trans silent
    exact { applyAll_sameScene same with }
  · have speaking := foldl_speaker commands named.actor none
    rw [if_pos any, foldl_speaker_actor] at speaking
    exact speaking.symm
  · have last := foldl_line commands named.shown? none
    rw [if_pos any, foldl_line_shown] at last
    exact last.symm

/-- A batch of which only the line is told: the sound and the link are not there. -/
theorem untold_batch :
    (update {} [.stopSound "bells", .hideWebLink, .setDialogText "Hi" {}] none).1 =
        { dialog := some "Hi" } ∧
      SameScene {} (update {} [.stopSound "bells", .hideWebLink, .setDialogText "Hi" {}] none).2 ∧
      (update {} [.stopSound "bells", .hideWebLink, .setDialogText "Hi" {}] none).2.shown? =
        some "Hi" := by
  obtain ⟨-, batch⟩ := update_append {} none
  obtain ⟨scene, -, dialog⟩ :=
    batch [.stopSound "bells", .hideWebLink, .setDialogText "Hi" {}]
  exact ⟨by decide, scene (by decide), (dialog (by decide)).symm.trans (by decide)⟩

end View

end VisualNovel
