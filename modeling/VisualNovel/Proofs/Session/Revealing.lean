import VisualNovel.Proofs.Playback.Speech
import VisualNovel.Proofs.Session.Resuming
import VisualNovel.Proofs.Session.Scenes
import VisualNovel.Proofs.View.Batches

namespace VisualNovel

namespace View

/-- Texts replace each other. -/
theorem applyAll_texts (v : View) {commands : List Command} (texts : ∀ c ∈ commands, c.IsText)
    (text : String) (style : TextStyle) :
    v.applyAll (commands ++ [.setDialogText text style]) = { v with dialog := text } := by
  induction commands generalizing v with
  | nil => rfl
  | cons c rest ih =>
    rw [List.forall_mem_cons] at texts
    cases c with
    | setDialogText earlier style => exact ih { v with dialog := earlier } texts.2
    | _ => exact texts.1.elim

/-- A line that comes last is told last. -/
theorem update_line (v : View) {commands : List Command} (timeline : Option String) {text : String}
    (style : TextStyle) (silent : commands.foldl line none = none) (nonempty : text.isEmpty = false) :
    (v.update (commands ++ [.setDialogText text style]) timeline).1.text =
        (v.update commands timeline).1.text ++ text ++ "\n\n" ∧
      (v.update (commands ++ [.setDialogText text style]) timeline).2 =
        { (v.update commands timeline).2 with dialog := text } := by
  have told : (commands ++ [Command.setDialogText text style]).foldl line none = some text := by
    rw [List.foldl_append, silent, List.foldl_cons, List.foldl_nil, line, nonempty]
    rfl
  have named : (commands ++ [Command.setDialogText text style]).foldl speaker none =
      commands.foldl speaker none := List.foldl_append
  have seen : v.effects (commands ++ [.setDialogText text style]) = v.effects commands := by
    rw [effects_append]
    exact List.append_nil _
  refine ⟨?_, ?_⟩
  · simp only [update, Delta.text, Delta.lines, told, silent, named, seen]
    simp [String.join_append, String.append_assoc]
  · simp only [update, applyAll_append]
    rfl

theorem update_nil {v : View} {timeline : Option String}
    (told : v.newTimeline? timeline = none) : v.update [] timeline = ({}, v) := by
  simp only [update, told]
  rfl

end View

namespace Session

/-- A session that shows a line, and has printed what is shown of it. -/
structure Revealing (r : Reveal) (s : Session) : Prop where
  phase : s.phase = .revealing r.shown
  navigation : s.playback.player.navigation = none
  shown : s.playback.player.reveal = some r
  hidden : r.isComplete = false
  visible : s.playback.surface.stage.dialogText = r.visible
  texts : ∀ c ∈ s.playback.surface.log.toList, c.IsText
  told : s.view.newTimeline? s.playback.player.timelineKey = none

/-- The session when the line is complete, printed and known to the view. -/
def revealed (r : Reveal) (s : Session) : Session :=
  { s with
    playback := (s.playback.completed r).looked
    view := { s.view with dialog := r.text }
    output := s.output ++ String.ofList (r.text.toList.drop r.shown) ++ "\n\n"
    phase := .prompting }

theorem drop_eq_append (cs : List Char) {m n : Nat} (le : m ≤ n) :
    cs.drop m = (cs.take n).drop m ++ cs.drop n := by
  have rest : cs.drop n = (cs.drop m).drop (n - m) := by
    rw [List.drop_drop, Nat.add_sub_cancel' le]
  rw [List.drop_take, rest, List.take_append_drop]

section Woken

variable {r later : Reveal} {s : Session} (h : s.Revealing r) {time : Duration} {more : Bool}
include h

theorem Revealing.wake_overflow {e : ClockOverflow} (ticked : r.tick time = .error e) :
    (s.wake time).phase = .over (.error .clock) := by
  unfold Session.wake
  rw [h.phase]
  simp only [Playback.tick_overflow h.navigation h.shown ticked]
  rfl

/-- What is printed of a line that is not complete is what is new of it, and the rest is printed
later. -/
theorem Revealing.wake_showing (ticked : r.tick time = .ok (more, later))
    (incomplete : later.isComplete = false) :
    (s.wake time).Revealing later ∧ (s.wake time).revealed later = s.revealed r := by
  obtain ⟨surface, called, stage, log⟩ :=
    Playback.tick_showing h.navigation h.shown h.hidden h.visible ticked incomplete
  obtain ⟨text, cases⟩ := Reveal.tick_cases h.hidden ticked
  have more : r.shown ≤ later.shown := by omega
  have new : surface.stage.dialogText.toList.drop r.shown =
      (r.text.toList.take later.shown).drop r.shown := by
    rw [stage, Reveal.visible, text, String.toList_ofList]
  have count : r.shown + ((r.text.toList.take later.shown).drop r.shown).length =
      later.shown := by
    have inside : later.shown < r.text.toList.length := by
      rw [← text, String.length_toList]
      exact Nat.lt_of_not_le (of_decide_eq_false incomplete)
    rw [List.length_drop, List.length_take]
    omega
  unfold Session.wake
  rw [h.phase]
  simp only [called]
  constructor
  · refine ⟨?_, h.navigation, rfl, incomplete, ?_, ?_, h.told⟩
    · simp only [new, count]
    · exact congrArg Stage.dialogText stage
    · exact fun c mem => (log c mem).elim (h.texts c) id
  · have printed : s.output ++ String.ofList ((r.text.toList.take later.shown).drop r.shown) ++
        String.ofList (r.text.toList.drop later.shown) ++ "\n\n" =
          s.output ++ String.ofList (r.text.toList.drop r.shown) ++ "\n\n" := by
      rw [drop_eq_append r.text.toList more, String.ofList_append, ← String.append_assoc]
    have staged : ({ surface.stage with dialogText := later.text } : Stage) =
        { s.playback.surface.stage with dialogText := r.text } := by rw [stage, text]
    have player : (Playback.completed { s.playback with player.reveal := some later, surface }
        later).looked = (s.playback.completed r).looked :=
      congrArg (fun stage => ({ s.playback with
        player.reveal := none
        player.progress := .waitInput
        surface := ⟨stage, #[]⟩ } : Playback)) staged
    simp only [revealed, print, new, text, printed, player]

/-- The rest of a line is printed when it is complete, and then a line is asked for. -/
theorem Revealing.wake_complete (ticked : r.tick time = .ok (more, later))
    (complete : later.isComplete = true) :
    s.wake time = ((s.revealed r).present .waitInput).1 := by
  let q : Session := { s with playback := s.playback.completed r, phase := .revealing r.shown }
  let t : Session := ((q.print (String.ofList (r.text.toList.drop r.shown))).print "\n\n").look.2
  have woken : s.wake time = follow (maxIdleRestarts + 1) (t.present .waitInput) := by
    unfold Session.wake
    rw [h.phase]
    simp only [Playback.tick_complete h.navigation h.shown h.hidden ticked complete]
    rfl
  have view : (s.view.update q.playback.surface.log.toList s.playback.player.timelineKey).2 =
      { s.view with dialog := r.text } := by
    have log : q.playback.surface.log.toList = s.playback.surface.log.toList ++
        [.setDialogText r.text s.playback.player.dialogStyle] := Surface.log_perform _ _
    simp only [View.update, h.told, log, View.applyAll_texts _ h.texts]
    rfl
  have same : { t with phase := .prompting } = s.revealed r :=
    congrArg (fun v : View => { s.revealed r with view := v }) view
  have presented := present_within t .prompting .waitInput
  rw [same] at presented
  rw [woken, presented, follow_present _ rfl]
  rfl

end Woken

/-- A line that has begun is shown as time goes by, with everything else told before it. -/
theorem revealing_of_begun {r : Reveal} {s : Session} (begun : s.playback.Begun r) :
    ({ s.flush with phase := .revealing 0 } : Session).Revealing r := by
  have unshown : r.shown = 0 := by rw [begun.fresh]
  refine ⟨?_, begun.navigation, begun.shown, begun.hidden, ?_, by simp [flush, look, print,
    Surface.takeLog], View.newTimeline?_update _ _ _⟩
  · rw [unshown]
  · have none : r.visible = "" := by rw [Reveal.visible, unshown]; rfl
    rw [none]
    exact begun.blank

theorem present_congr {s t : Session} (same : s.flush = t.flush) (g : Progress) :
    s.present g = t.present g := by
  unfold present
  rw [same]

theorem remainingTime_begun {r : Reveal} {p : Playback} (begun : p.Begun r) :
    remainingTime p = r.interval.times (min r.charCount (twoTo 32 - 1)) := by
  have interval : p.player.config.typingInterval = r.interval := by rw [begun.fresh]
  have unshown : r.shown = 0 := by rw [begun.fresh]
  simp only [remainingTime, begun.shown, unshown, Nat.sub_zero, interval]

theorem flush_revealed (r : Reveal) (s : Session) :
    (s.flush.revealed r).flush = s.flush.revealed r := by
  have idle : (s.flush.revealed r).view.update [] s.playback.player.timelineKey =
      ({}, (s.flush.revealed r).view) :=
    View.update_nil (View.newTimeline?_update s.view _ _)
  calc (s.flush.revealed r).flush
    _ = { s.flush.revealed r with
          view := ((s.flush.revealed r).view.update [] s.playback.player.timelineKey).2
          output := (s.flush.revealed r).output ++
            ((s.flush.revealed r).view.update [] s.playback.player.timelineKey).1.text } := rfl
    _ = s.flush.revealed r := by
      rw [idle, show Delta.text {} = "" from rfl, String.append_empty]

/-- To tell everything at once is to tell what was done before the line, and then the line. -/
theorem flush_completed {r : Reveal} {s : Session} (begun : s.playback.Begun r) :
    ({ s with playback := s.playback.completed r, phase := .prompting } : Session).flush =
      s.flush.revealed r := by
  have unshown : r.shown = 0 := by rw [begun.fresh]
  let commands := (s.playback.completed r).surface.log.toList
  let told := s.view.update commands s.playback.player.timelineKey
  have log : commands = s.playback.surface.log.toList ++
      [.setDialogText r.text s.playback.player.dialogStyle] := Surface.log_perform _ _
  obtain ⟨text, view⟩ := View.update_line s.view s.playback.player.timelineKey
    s.playback.player.dialogStyle begun.silent (Reveal.nonempty_of_hidden begun.hidden)
  rw [← log] at text view
  have output : s.output ++ told.1.text = (s.flush.revealed r).output := by
    rw [text, ← String.append_assoc, ← String.append_assoc, revealed, unshown, List.drop_zero,
      String.ofList_toList]
    rfl
  calc ({ s with playback := s.playback.completed r, phase := .prompting } : Session).flush
    _ = { s.flush.revealed r with view := told.2, output := s.output ++ told.1.text } := rfl
    _ = s.flush.revealed r := by
      rw [view, output]
      rfl

theorem proceed_begun {r : Reveal} {s : Session} (begun : s.playback.Begun r)
    (fits : r.interval.FitsLine r.text) (still : s.options.animate = false) :
    s.proceed .typing = (s.flush.revealed r).present .waitInput := by
  let q : Session := { s with playback := s.playback.completed r }
  have proceeded : s.proceed .typing = q.present .waitInput := by
    simp only [proceed, still, Bool.false_eq_true, if_false, remainingTime_begun begun,
      begun.revealed_at_once fits]
    rfl
  have flushed : ({ q with phase := .prompting } : Session).flush = (s.flush.revealed r).flush :=
    (flush_completed begun).trans (flush_revealed r s).symm
  rw [proceeded, ← present_congr flushed, present_within]
  rfl

end Session

end VisualNovel
