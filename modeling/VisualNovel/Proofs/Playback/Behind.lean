import VisualNovel.Proofs.Playback.Calls

/-!
A player behind commands and records of an earlier time. A player adds to both and reads neither, so
that it does the same behind anything.
-/

namespace VisualNovel.Playback

/-- The player with earlier commands and earlier records. -/
def behind (commands : Array Command) (records : Array Log.Entry) (p : Playback) : Playback where
  player := p.player
  surface := ⟨p.surface.stage, commands ++ p.surface.log⟩
  records := records ++ p.records

/-- An answer of the player, behind the commands and records. -/
def answerBehind (commands : Array Command) (records : Array Log.Entry) (r : Progress × Playback) :
    Progress × Playback := (r.1, r.2.behind commands records)

/-- The player without what it did so far. -/
def bare (p : Playback) : Playback := ⟨p.player, ⟨p.surface.stage, #[]⟩, #[]⟩

theorem behind_bare (p : Playback) : p.bare.behind p.surface.log p.records = p := by
  simp [bare, behind]

variable (commands : Array Command) (records : Array Log.Entry)

@[simp] theorem behind_player (p : Playback) : (p.behind commands records).player = p.player := rfl

@[simp] theorem behind_stage (p : Playback) :
    (p.behind commands records).surface.stage = p.surface.stage := rfl

theorem behind_note (p : Playback) (e : Log.Entry) :
    (p.behind commands records).note e = (p.note e).behind commands records := by
  unfold note
  rw [behind_player]
  split
  · simp [behind]
  · rfl

theorem behind_perform (p : Playback) (c : Command) :
    (p.behind commands records).perform c = (p.perform c).behind commands records := by
  simp [behind, perform, Surface.perform]

theorem behind_performAll (p : Playback) (cs : List Command) :
    (p.behind commands records).performAll cs = (p.performAll cs).behind commands records := by
  induction cs generalizing p with
  | nil => rfl
  | cons c rest ih =>
    have first := ih (p.perform c)
    rw [← behind_perform] at first
    exact first

theorem behind_navigate (p : Playback) (n : Navigation) :
    (p.behind commands records).navigate n =
      answerBehind commands records (p.navigate n) := by
  unfold navigate
  rw [behind_note]
  rfl

theorem behind_passing (p : Playback) (e : Event) :
    (p.behind commands records).passing e = (p.passing e).behind commands records := by
  unfold passing
  rw [behind_player, behind_note]
  rfl

theorem behind_apply (p : Playback) (e : Event) :
    (p.behind commands records).apply e = (p.apply e).behind commands records := by
  cases e with
  | clearDialog => simp only [apply, behind_perform]
  | setBackground image | addForeground image =>
    simp only [apply, behind_note, behind_perform]
    rfl
  | playSound cue =>
    simp only [apply, behind_note, behind_perform, behind_stage]
    split <;> rfl
  | clearSound key =>
    simp only [apply, behind_perform, behind_stage]
    split <;> rfl
  | setFrame image =>
    simp only [apply, behind_perform]
    rfl
  | clearBackground | clearForeground | hideWebLink => exact behind_perform commands records p _
  | _ => rfl

theorem behind_showLine (p : Playback) (line : DialogLine) :
    (p.behind commands records).showLine line =
      answerBehind commands records (p.showLine line) := by
  unfold showLine
  dsimp only
  split
  · next complete =>
    rw [if_pos (by exact complete)]
    simp [answerBehind, behind, perform, Surface.perform]
  · next incomplete =>
    rw [if_neg (by exact incomplete)]
    simp [answerBehind, behind, perform, Surface.perform]

theorem behind_openGate (p : Playback) (g : Gate) :
    (p.behind commands records).openGate g = answerBehind commands records (p.openGate g) := by
  let q := ((p.perform .clearButtons).setAdvanceEnabled false).performAll
    ((g.buttons p.player.config.layout p.canvas).map .addButton)
  have cleared : (((p.behind commands records).perform .clearButtons).setAdvanceEnabled false) =
      ((p.perform .clearButtons).setAdvanceEnabled false).behind commands records := by
    simp [behind, setAdvanceEnabled, perform, Surface.perform]
  have noted : (((((p.behind commands records).perform .clearButtons).setAdvanceEnabled
      false).performAll ((g.buttons p.player.config.layout p.canvas).map .addButton)).note
        (.gateOpened g.buttonCount)) =
      (q.note (.gateOpened g.buttonCount)).behind commands records := by
    rw [cleared, behind_performAll, behind_note]
  exact congrArg (fun r : Playback => (Progress.waitChoice, { r with player.gate := some g })) noted

theorem behind_block (p : Playback) (e : Event) :
    (p.behind commands records).block e = answerBehind commands records (p.block e) := by
  cases e with
  | dialog line => exact behind_showLine commands records p line
  | timelineTransition key | sceneTransition jump => exact behind_navigate commands records p _
  | choice options =>
    simp only [block]
    split
    · rfl
    · exact behind_openGate commands records p _
  | multiChoice set =>
    simp only [block, behind_player]
    split
    · rfl
    · generalize Gate.Multi.forSet set p.player.random = drawn
      obtain ⟨gate, random⟩ := drawn
      let q : Playback := { p with player.random := random }
      have opened := behind_openGate commands records (q.note (.ordered gate.order)) (.multi gate)
      rw [← behind_note] at opened
      exact opened
  | unknown => exact congrArg (Prod.mk Progress.stalled) (behind_note commands records p _)
  | showWebLink link =>
    exact congrArg (Prod.mk Progress.waitInput) (behind_perform commands records p _)
  | _ => exact congrArg (Prod.mk Progress.waitInput) (behind_apply commands records p _)

theorem behind_runThrough (p : Playback) (left : List Event) :
    (p.behind commands records).runThrough left =
      answerBehind commands records (p.runThrough left) := by
  induction left generalizing p with
  | nil => exact congrArg (Prod.mk Progress.ended) (behind_note commands records p _)
  | cons e rest ih =>
    cases he : e.pacing with
    | immediate =>
      simp only [runThrough, he]
      rw [behind_passing, behind_apply]
      exact ih _
    | blocking =>
      simp only [runThrough, he]
      rw [behind_passing]
      exact behind_block commands records _ e

theorem behind_run (p : Playback) :
    (p.behind commands records).run = answerBehind commands records p.run := by
  simp only [run, behind_player]
  split
  · rfl
  · exact behind_runThrough commands records p _

theorem behind_respond (p : Playback) (id : Nat) (response : Gate.Response) :
    (p.behind commands records).respond id response =
      answerBehind commands records (p.respond id response) := by
  cases response with
  | refused reason | toggled option state =>
    exact congrArg (Prod.mk p.player.progress) (behind_note commands records p _)
  | resolved destination verdict =>
    cases verdict with
    | none =>
      exact congrArg (fun r : Progress × Playback => r.2.settle r.1)
        (behind_navigate commands records p (.restart destination))
    | some verdict =>
      have navigated := behind_navigate commands records (p.note (.graded verdict))
        (.restart destination)
      rw [← behind_note] at navigated
      exact congrArg (fun r : Progress × Playback => r.2.settle r.1) navigated
  | fallback verdict =>
    have enabled (q : Playback) :
        ((q.behind commands records).setAdvanceEnabled true).settle .waitInput =
          answerBehind commands records ((q.setAdvanceEnabled true).settle .waitInput) := by
      simp [answerBehind, behind, settle, setAdvanceEnabled, perform, Surface.perform]
    have noted := enabled (p.note .fellBack)
    rw [← behind_note] at noted
    exact noted

section Going

variable {p : Playback} (navigation : p.player.navigation = none)
include navigation

theorem behind_advance :
    (p.behind commands records).advance = answerBehind commands records p.advance := by
  let b := p.behind commands records
  cases enabled : p.player.advanceEnabled with
  | false =>
    rw [advance_ignored navigation enabled, advance_ignored (p := b) navigation enabled]
    exact congrArg (Prod.mk p.player.progress) (behind_note commands records p _)
  | true =>
    cases shown : p.player.reveal with
    | some reveal =>
      let q : Playback :=
        { p with player.reveal := none }.perform (.setDialogText reveal.text p.player.dialogStyle)
      have told : ({ b with player.reveal := none }.perform
          (.setDialogText reveal.text p.player.dialogStyle)).note .lineCompleted =
            (q.note .lineCompleted).behind commands records := by
        rw [← behind_note]
        exact congrArg (note · .lineCompleted)
          (behind_perform commands records { p with player.reveal := none } _)
      rw [advance_shown navigation enabled shown, advance_shown (p := b) navigation enabled shown]
      exact congrArg (fun r : Playback => r.settle .waitInput) told
    | none =>
      rw [advance_run navigation enabled shown, advance_run (p := b) navigation enabled shown]
      exact congrArg (fun r : Progress × Playback => r.2.settle r.1) (behind_run commands records p)

theorem behind_press (id : Nat) :
    (p.behind commands records).press id = answerBehind commands records (p.press id) := by
  cases gated : p.player.gate with
  | none => simp [press, navigation, gated, answerBehind]
  | some gate =>
    let q : Playback := { p with player.gate := some (gate.press id).2 }
    have performed := behind_performAll commands records q ((gate.press id).1.commands id)
    rw [press_gated id navigation gated,
      press_gated (p := p.behind commands records) id navigation gated]
    exact (congrArg (respond · id (gate.press id).1) performed).trans
      (behind_respond commands records _ id _)

theorem behind_tick (time : Duration) :
    (p.behind commands records).tick time =
      (p.tick time).map (answerBehind commands records) := by
  unfold tick
  cases shown : p.player.reveal with
  | none => simp [navigation, shown, answerBehind, Except.map]
  | some reveal =>
    simp only [behind_player, navigation, shown, Option.isSome_none, Bool.false_eq_true, if_false]
    cases reveal.tick time with
    | error e => rfl
    | ok m =>
      obtain ⟨more, later⟩ := m
      simp only [bind, Except.bind, pure, Except.pure]
      cases later.isComplete <;> cases more <;>
        simp [answerBehind, behind, settle, perform, Surface.perform, Except.map]

end Going

theorem behind_call (p : Playback) (c : Call) :
    (p.behind commands records).call c = (p.call c).map (answerBehind commands records) := by
  cases navigation : p.player.navigation with
  | some n =>
    rw [call_finished navigation, call_finished (p := p.behind commands records) navigation]
    rfl
  | none =>
    cases c with
    | advance => exact congrArg Except.ok (behind_advance commands records navigation)
    | press id => exact congrArg Except.ok (behind_press commands records navigation id)
    | tick time => exact behind_tick commands records navigation time

theorem behind_calls (r : Progress × Playback) (cs : List Call) :
    calls (answerBehind commands records r) cs =
      (calls r cs).map (answerBehind commands records) := by
  induction cs generalizing r with
  | nil => rfl
  | cons c rest ih =>
    simp only [calls, List.foldlM_cons] at ih ⊢
    simp only [answerBehind, behind_call]
    cases r.2.call c with
    | error e => rfl
    | ok m => exact ih m

end VisualNovel.Playback
