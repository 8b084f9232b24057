import VisualNovel.Proofs.Playback.Calls

/-!
A player under another filter of its records. Records are only ever added to, so that a player that
records everything does all that one with a filter does, whatever that one has recorded before.
-/

namespace VisualNovel.Playback

/-- The player with a filter of its records, behind records that were made earlier. -/
def filed (filter : Log.Filter) (earlier : Array Log.Entry) (p : Playback) : Playback where
  player := { p.player with config.log := filter }
  surface := p.surface
  records := earlier ++ p.records.filter filter.keeps

def filedAnswer (filter : Log.Filter) (earlier : Array Log.Entry) (r : Progress × Playback) :
    Progress × Playback := (r.1, r.2.filed filter earlier)

@[simp] theorem filed_player (filter : Log.Filter) (earlier : Array Log.Entry) (p : Playback) :
    (p.filed filter earlier).player = { p.player with config.log := filter } := rfl

@[simp] theorem filed_surface (filter : Log.Filter) (earlier : Array Log.Entry) (p : Playback) :
    (p.filed filter earlier).surface = p.surface := rfl

def RecordsAll (p : Playback) : Prop := p.player.config.log = .verbose

theorem keeps_verbose (e : Log.Entry) : Log.Filter.verbose.keeps e = true := by
  cases e <;> rfl

variable {p : Playback} (all : p.RecordsAll) (filter : Log.Filter) (earlier : Array Log.Entry)
include all

namespace RecordsAll

omit filter earlier

theorem note (e : Log.Entry) : (p.note e).RecordsAll := by
  rw [RecordsAll, note_player]
  exact all

theorem apply (e : Event) : (p.apply e).RecordsAll := by
  rw [RecordsAll, apply_player]
  exact all

theorem passing (e : Event) : (p.passing e).RecordsAll := by
  rw [RecordsAll, passing_player]
  exact all

theorem readied (timeline : Timeline) (index : Nat) : (p.readied timeline index).RecordsAll := by
  rw [RecordsAll, readied_config]
  exact all

theorem setUp {q : Playback} (same : SetUpAs p q) : q.RecordsAll := by
  rw [RecordsAll, same.1]
  exact all

end RecordsAll

theorem filed_note (e : Log.Entry) :
    (p.filed filter earlier).note e = (p.note e).filed filter earlier := by
  have kept : p.note e = { p with records := p.records.push e } := by
    rw [note, all, if_pos (keeps_verbose e)]
  rw [kept, note]
  cases keeps : filter.keeps e with
  | true => simp [filed, keeps]
  | false => simp [filed, keeps]

theorem filed_navigate (n : Navigation) :
    (p.filed filter earlier).navigate n = filedAnswer filter earlier (p.navigate n) := by
  unfold navigate
  rw [filed_note all]
  rfl

theorem filed_passing (e : Event) :
    (p.filed filter earlier).passing e = (p.passing e).filed filter earlier := by
  unfold passing
  rw [filed_player, filed_note all]
  rfl

theorem filed_apply (e : Event) :
    (p.filed filter earlier).apply e = (p.apply e).filed filter earlier := by
  cases e with
  | setBackground image | addForeground image =>
    simp only [apply]
    rw [filed_note all]
    rfl
  | playSound cue =>
    simp only [apply, filed_surface, filed_note all]
    split <;> rfl
  | clearSound key =>
    cases playing : p.surface.stage.isPlaying key <;> simp only [apply, filed_surface, playing] <;>
      rfl
  | _ => rfl

omit all in
theorem filed_showLine (line : DialogLine) :
    (p.filed filter earlier).showLine line = filedAnswer filter earlier (p.showLine line) := by
  unfold showLine
  dsimp only
  split
  · next complete =>
    rw [if_pos (by exact complete)]
    rfl
  · next incomplete =>
    rw [if_neg (by exact incomplete)]
    rfl

theorem filed_openGate (g : Gate) :
    (p.filed filter earlier).openGate g = filedAnswer filter earlier (p.openGate g) := by
  let q := ((p.perform .clearButtons).setAdvanceEnabled false).performAll
    ((g.buttons p.player.config.layout p.canvas).map .addButton)
  have noted : (q.filed filter earlier).note (.gateOpened g.buttonCount) =
      (q.note (.gateOpened g.buttonCount)).filed filter earlier :=
    filed_note (p := q) all filter earlier _
  exact congrArg (fun r : Playback => (Progress.waitChoice, { r with player.gate := some g })) noted

theorem filed_block (e : Event) :
    (p.filed filter earlier).block e = filedAnswer filter earlier (p.block e) := by
  cases e with
  | dialog line => exact filed_showLine filter earlier line
  | timelineTransition key | sceneTransition jump => exact filed_navigate all filter earlier _
  | choice options =>
    simp only [block]
    split
    · rfl
    · exact filed_openGate all filter earlier _
  | multiChoice set =>
    simp only [block, filed_player]
    split
    · rfl
    · generalize Gate.Multi.forSet set p.player.random = drawn
      obtain ⟨gate, random⟩ := drawn
      let q : Playback := { p with player.random := random }
      have noted := filed_note (p := q) all filter earlier (.ordered gate.order)
      have opened := filed_openGate (RecordsAll.note (p := q) all (.ordered gate.order)) filter
        earlier (.multi gate)
      rw [← noted] at opened
      exact opened
  | unknown => exact congrArg (Prod.mk Progress.stalled) (filed_note all filter earlier _)
  | showWebLink link => rfl
  | _ => exact congrArg (Prod.mk Progress.waitInput) (filed_apply all filter earlier _)

theorem filed_runThrough (left : List Event) :
    (p.filed filter earlier).runThrough left = filedAnswer filter earlier (p.runThrough left) := by
  induction left generalizing p with
  | nil => exact congrArg (Prod.mk Progress.ended) (filed_note all filter earlier _)
  | cons e rest ih =>
    have passed := all.passing e
    cases he : e.pacing with
    | immediate =>
      simp only [runThrough, he]
      rw [filed_passing all, filed_apply passed]
      exact ih (passed.apply e)
    | blocking =>
      simp only [runThrough, he]
      rw [filed_passing all]
      exact filed_block passed filter earlier e

theorem filed_run : (p.filed filter earlier).run = filedAnswer filter earlier p.run := by
  simp only [run, filed_player]
  split
  · rfl
  · exact filed_runThrough all filter earlier _

theorem filed_startAt (timeline : Timeline) (index : Nat) :
    (p.filed filter earlier).startAt timeline index =
      filedAnswer filter earlier (p.startAt timeline index) := by
  have readied : (p.filed filter earlier).readied timeline index =
      (p.readied timeline index).filed filter earlier := by
    let q : Playback := { p with
      player.timeline := some timeline
      player.index := index
      player.reveal := none
      player.gate := none
      player.navigation := none }.setAdvanceEnabled true
    exact filed_note (p := q) all filter earlier _
  have ran := filed_run (all.readied timeline index) filter earlier
  rw [← readied] at ran
  exact congrArg (fun r : Progress × Playback => r.2.settle r.1) ran

theorem filed_respond (id : Nat) (response : Gate.Response) :
    (p.filed filter earlier).respond id response =
      filedAnswer filter earlier (p.respond id response) := by
  cases response with
  | refused reason | toggled option state =>
    exact congrArg (Prod.mk p.player.progress) (filed_note all filter earlier _)
  | resolved destination verdict =>
    cases verdict with
    | none =>
      exact congrArg (fun r : Progress × Playback => r.2.settle r.1)
        (filed_navigate all filter earlier (.restart destination))
    | some verdict =>
      have navigated :=
        filed_navigate (all.note (.graded verdict)) filter earlier (.restart destination)
      rw [← filed_note all] at navigated
      exact congrArg (fun r : Progress × Playback => r.2.settle r.1) navigated
  | fallback verdict =>
    exact congrArg (fun r : Playback => (r.setAdvanceEnabled true).settle .waitInput)
      (filed_note all filter earlier .fellBack)

section Going

variable (navigation : p.player.navigation = none)
include navigation

theorem filed_advance :
    (p.filed filter earlier).advance = filedAnswer filter earlier p.advance := by
  let f := p.filed filter earlier
  cases enabled : p.player.advanceEnabled with
  | false =>
    rw [advance_ignored navigation enabled, advance_ignored (p := f) navigation enabled]
    exact congrArg (Prod.mk p.player.progress) (filed_note all filter earlier _)
  | true =>
    cases shown : p.player.reveal with
    | some reveal =>
      let q : Playback :=
        { p with player.reveal := none }.perform (.setDialogText reveal.text p.player.dialogStyle)
      rw [advance_shown navigation enabled shown, advance_shown (p := f) navigation enabled shown]
      exact congrArg (fun r : Playback => r.settle .waitInput)
        (filed_note (p := q) all filter earlier .lineCompleted)
    | none =>
      rw [advance_run navigation enabled shown, advance_run (p := f) navigation enabled shown]
      exact congrArg (fun r : Progress × Playback => r.2.settle r.1) (filed_run all filter earlier)

theorem filed_press (id : Nat) :
    (p.filed filter earlier).press id = filedAnswer filter earlier (p.press id) := by
  cases gated : p.player.gate with
  | none => simp [press, navigation, gated, filedAnswer]
  | some gate =>
    let q : Playback := { p with player.gate := some (gate.press id).2 }.performAll
      ((gate.press id).1.commands id)
    rw [press_gated id navigation gated,
      press_gated (p := p.filed filter earlier) id navigation gated]
    exact filed_respond (p := q) all filter earlier id _

omit all in
theorem filed_tick (time : Duration) :
    (p.filed filter earlier).tick time = (p.tick time).map (filedAnswer filter earlier) := by
  unfold tick
  cases shown : p.player.reveal with
  | none => simp [navigation, shown, filedAnswer, Except.map]
  | some reveal =>
    simp only [filed_player, navigation, shown, Option.isSome_none, Bool.false_eq_true, if_false]
    cases reveal.tick time with
    | error e => rfl
    | ok m =>
      obtain ⟨more, later⟩ := m
      simp only [bind, Except.bind, pure, Except.pure]
      cases later.isComplete <;> cases more <;> rfl

end Going

/-- Whatever is asked of a player, its filter only decides which records are kept. -/
theorem filed_call (c : Call) :
    (p.filed filter earlier).call c = (p.call c).map (filedAnswer filter earlier) := by
  cases navigation : p.player.navigation with
  | some n =>
    rw [call_finished navigation, call_finished (p := p.filed filter earlier) navigation]
    rfl
  | none =>
    cases c with
    | advance => exact congrArg Except.ok (filed_advance all filter earlier navigation)
    | press id => exact congrArg Except.ok (filed_press all filter earlier navigation id)
    | tick time => exact filed_tick filter earlier navigation time

end VisualNovel.Playback
