import VisualNovel.Proofs.Session.Turns

namespace VisualNovel

namespace Command

/-- The sounds that are playing after a command. -/
def sounding (sounds : Dict Bool) : Command → Dict Bool
  | .playSound key looping => sounds.insert key looping
  | .stopSound key => sounds.erase key
  | _ => sounds

/-- A sound is started while it is silent, and stopped while it is playing. -/
def Suits (sounds : Dict Bool) : Command → Prop
  | .playSound key _ => sounds.contains key = false
  | .stopSound key => sounds.contains key = true
  | _ => True

/-- What a command does to a sound: it starts it, looping or not, or stops it. -/
def cue? (key : String) : Command → Option (Option Bool)
  | .playSound k looping => if k = key then some (some looping) else none
  | .stopSound k => if k = key then some none else none
  | _ => none

def cues (key : String) (commands : List Command) : List (Option Bool) :=
  commands.filterMap (cue? key)

/-- Each command suits the sounds that are playing after those before it. -/
def SuitAll (sounds : Dict Bool) : List Command → Prop
  | [] => True
  | c :: rest => c.Suits sounds ∧ SuitAll (c.sounding sounds) rest

theorem suitAll_append {sounds : Dict Bool} {a b : List Command} :
    SuitAll sounds (a ++ b) ↔ SuitAll sounds a ∧ SuitAll (a.foldl sounding sounds) b := by
  induction a generalizing sounds with
  | nil => simp [SuitAll]
  | cons c rest ih => simp [SuitAll, ih, and_assoc]

theorem get?_sounding (sounds : Dict Bool) (c : Command) (key : String) :
    (c.sounding sounds).get? key = (c.cue? key).getD (sounds.get? key) := by
  cases c with
  | playSound k looping =>
    by_cases same : k = key
    · simp [sounding, cue?, same]
    · simp [sounding, cue?, same, Dict.get?_insert, Ne.symm same]
  | stopSound k =>
    by_cases same : k = key
    · simp [sounding, cue?, same, Dict.get?_erase]
    · simp [sounding, cue?, same, Dict.get?_erase, Ne.symm same]
  | _ => rfl

theorem get?_foldl_sounding (sounds : Dict Bool) (commands : List Command) (key : String) :
    (commands.foldl sounding sounds).get? key =
      (cues key commands).getLast?.getD (sounds.get? key) := by
  induction commands generalizing sounds with
  | nil => rfl
  | cons c rest ih =>
    rw [List.foldl_cons, ih, get?_sounding]
    cases cue : c.cue? key with
    | none => simp [cues, cue]
    | some change => simp [cues, cue, List.getLast?_cons]

theorem Suits.isSome_cue {sounds : Dict Bool} {c : Command} (h : c.Suits sounds) {key : String}
    {change : Option Bool} (cue : c.cue? key = some change) :
    change.isSome = !sounds.contains key := by
  cases c with
  | playSound k looping =>
    obtain ⟨rfl, rfl⟩ : k = key ∧ some looping = change := by simpa [cue?] using cue
    simp [show sounds.contains k = false from h]
  | stopSound k =>
    obtain ⟨rfl, rfl⟩ : k = key ∧ none = change := by simpa [cue?] using cue
    simp [show sounds.contains k = true from h]
  | _ => cases cue

/-- Commands that suit the sounds start and stop each of them by turns. -/
theorem SuitAll.alternate {sounds : Dict Bool} {commands : List Command}
    (h : SuitAll sounds commands) {key : String} {i : Nat} {change : Option Bool}
    (cue : (cues key commands)[i]? = some change) :
    change.isSome = true ↔ (i + (sounds.contains key).toNat) % 2 = 0 := by
  induction commands generalizing sounds i with
  | nil => cases cue
  | cons c rest ih =>
    obtain ⟨suits, later⟩ := h
    have playing : (c.sounding sounds).contains key =
        ((c.cue? key).getD (sounds.get? key)).isSome := by
      rw [Dict.contains, get?_sounding]
    cases first : c.cue? key with
    | none =>
      simp only [cues, List.filterMap_cons, first] at cue
      rw [ih later cue, playing, first]
      rfl
    | some now =>
      have turned := suits.isSome_cue first
      simp only [cues, List.filterMap_cons, first] at cue
      cases i with
      | zero =>
        cases cue
        rw [turned]
        cases sounds.contains key <;> simp
      | succ i =>
        -- what comes first turns the sound on or off, so that the rest is counted from there
        rw [ih later cue, playing, first, Option.getD_some, turned]
        cases sounds.contains key with
        | false => simp
        | true =>
          simp
          omega

end Command

@[simp] theorem Stage.apply_sounds (s : Stage) (c : Command) :
    (s.apply c).sounds = c.sounding s.sounds := by
  cases c <;> rfl

/-- The one surface comes from the other by commands that suit the sounds. -/
def Surface.Cued (s t : Surface) : Prop :=
  ∃ commands, t = s.performAll commands ∧ Command.SuitAll s.stage.sounds commands

namespace Surface

theorem performAll_sounds (s : Surface) (commands : List Command) :
    (s.performAll commands).stage.sounds = commands.foldl Command.sounding s.stage.sounds := by
  induction commands generalizing s with
  | nil => rfl
  | cons c rest ih => rw [performAll_cons, ih, perform_stage, Stage.apply_sounds, List.foldl_cons]

namespace Cued

theorem refl (s : Surface) : s.Cued s := ⟨[], rfl, trivial⟩

theorem perform (s : Surface) (c : Command) (h : c.Suits s.stage.sounds) : s.Cued (s.perform c) :=
  ⟨[c], rfl, h, trivial⟩

theorem trans {s t u : Surface} (hst : s.Cued t) (htu : t.Cued u) : s.Cued u := by
  obtain ⟨cs, rfl, hcs⟩ := hst
  obtain ⟨ds, rfl, hds⟩ := htu
  refine ⟨cs ++ ds, (performAll_append s cs ds).symm, Command.suitAll_append.2 ⟨hcs, ?_⟩⟩
  rwa [performAll_sounds] at hds

theorem addButtons (s : Surface) (buttons : List Button) :
    s.Cued (s.performAll (buttons.map .addButton)) := by
  refine ⟨_, rfl, ?_⟩
  induction buttons with
  | nil => trivial
  | cons b rest ih => exact ⟨trivial, ih⟩

end Cued

end Surface

namespace Playback

open Surface (Cued)

/-- The player asks whether a sound is playing before it starts or stops it. -/
theorem apply_cued (p : Playback) (e : Event) : p.surface.Cued (p.apply e).surface := by
  cases e with
  | clearDialog => exact (Cued.perform _ .clearActorName trivial).trans (.perform _ _ trivial)
  | setBackground image | addForeground image =>
    simp only [apply, perform_surface, note_surface]
    exact .perform _ _ trivial
  | playSound cue =>
    simp only [apply]
    split
    · rw [note_surface]
      exact .refl _
    · next silent => exact .perform _ _ (Bool.eq_false_iff.2 silent)
  | clearSound key =>
    simp only [apply]
    split
    · next playing => exact .perform _ _ playing
    · exact .refl _
  | clearBackground | setFrame | clearForeground | hideWebLink => exact .perform _ _ trivial
  | _ => exact .refl _

theorem showLine_cued (p : Playback) (line : DialogLine) :
    p.surface.Cued (p.showLine line).2.surface := by
  have actor : (actorCommand line).Suits p.surface.stage.sounds := by
    unfold actorCommand
    split
    · split <;> trivial
    · trivial
  have drawn : p.surface.Cued ((p.surface.perform (actorCommand line)).perform
      (.setDialogText "" ⟨line.textFillColor, line.textFillAlpha⟩)) :=
    (Cued.perform _ _ actor).trans (.perform _ _ trivial)
  unfold showLine
  dsimp only
  split <;> exact drawn

theorem openGate_cued (p : Playback) (g : Gate) : p.surface.Cued (p.openGate g).2.surface := by
  have cleared : p.surface.Cued
      ((p.surface.perform .clearButtons).perform (.setAdvanceEnabled false)) :=
    (Cued.perform _ .clearButtons trivial).trans (.perform _ _ trivial)
  rw [openGate_surface]
  exact cleared.trans (.addButtons _ _)

theorem block_cued (p : Playback) (e : Event) : p.surface.Cued (p.block e).2.surface := by
  cases e with
  | dialog line => exact showLine_cued p line
  | timelineTransition key | sceneTransition jump =>
    simp only [block, navigate_surface]
    exact .refl _
  | choice options =>
    simp only [block]
    split
    · exact .refl _
    · exact openGate_cued p _
  | multiChoice set =>
    simp only [block]
    split
    · exact .refl _
    · have opened := openGate_cued
        ({ p with player.random := (Gate.Multi.forSet set p.player.random).2 }.note
          (.ordered (Gate.Multi.forSet set p.player.random).1.order))
        (.multi (Gate.Multi.forSet set p.player.random).1)
      rwa [note_surface] at opened
  | showWebLink link => exact .perform _ _ trivial
  | unknown =>
    simp only [block, note_surface]
    exact .refl _
  | _ => exact apply_cued p _

theorem runThrough_cued (p : Playback) (left : List Event) :
    p.surface.Cued (p.runThrough left).2.surface := by
  induction left generalizing p with
  | nil =>
    simp only [runThrough, note_surface]
    exact .refl _
  | cons e rest ih =>
    have passed : p.surface.Cued ((p.passing e).apply e).surface := by
      simpa using apply_cued (p.passing e) e
    cases he : e.pacing with
    | immediate =>
      simp only [runThrough, he]
      exact passed.trans (ih _)
    | blocking =>
      simp only [runThrough, he]
      simpa using block_cued (p.passing e) e

theorem run_cued (p : Playback) : p.surface.Cued p.run.2.surface := by
  unfold run
  split
  · exact .refl _
  · exact runThrough_cued p _

theorem startAt_cued (p : Playback) (timeline : Timeline) (index : Nat) :
    p.surface.Cued (p.startAt timeline index).2.surface := by
  have readied : p.surface.Cued (p.readied timeline index).surface := by
    simpa [readied] using Cued.perform p.surface (.setAdvanceEnabled true) trivial
  exact readied.trans (run_cued (p.readied timeline index))

theorem tick_cued {p q : Playback} {time : Duration} {g : Progress}
    (h : p.tick time = .ok (g, q)) : p.surface.Cued q.surface := by
  unfold tick at h
  split at h
  · cases h
    exact .refl _
  · split at h
    · cases h
      exact .refl _
    · next reveal shown =>
      cases ticked : reveal.tick time with
      | error e =>
        rw [ticked] at h
        cases h
      | ok result =>
        obtain ⟨more, later⟩ := result
        simp only [ticked, bind, Except.bind, pure, Except.pure] at h
        -- all that is done to the surface is to show more of the text
        have drawn : p.surface.Cued
            (if more then p.surface.perform (.setDialogText later.visible p.player.dialogStyle)
              else p.surface) := by
          split
          · exact .perform _ _ trivial
          · exact .refl _
        split at h <;> cases h <;> cases more <;> exact drawn

theorem call_cued {p q : Playback} {c : Call} {g : Progress} (h : p.call c = .ok (g, q)) :
    p.surface.Cued q.surface := by
  cases call_step h with
  | finished navigation same | ungated navigation gate same | unshown navigation reveal same =>
    exact same ▸ .refl _
  | ignored navigation enabled player surface
  | refused navigation gated pressed player surface
  | resolved navigation gated pressed player surface => exact surface ▸ .refl _
  | completed navigation enabled shown player surface
  | toggled navigation gated pressed player surface
  | fellBack navigation gated pressed player surface => exact surface ▸ .perform _ _ trivial
  | ran navigation enabled reveal run player surface =>
    have cued := run_cued p
    rw [run] at cued
    exact surface ▸ cued
  | showing | shown => exact tick_cued h

end Playback

/-- A surface in the hands of its last player, and the commands that it got but no longer keeps. -/
structure Performance where
  playback : Playback
  earlier : List Command := []

namespace Performance

/-- All commands that the surface got. -/
def issued (s : Performance) : List Command := s.earlier ++ s.playback.surface.log.toList

inductive Act where
  /-- A scene is left, and a new player is there for the next one. -/
  | leave (config : Config) (unseeded : Random)
  | start (name : Option String) (timeline : Timeline) (index : Nat)
  | call (call : Playback.Call)
  /-- The commands are taken from the surface. -/
  | take
  /-- The host makes a record. -/
  | note (entry : Log.Entry)

def act (s : Performance) : Act → Except ClockOverflow Performance
  | .leave config unseeded =>
    .ok ⟨{ Playback.ofConfig config s.playback.surface.reset unseeded with
      records := s.playback.records }, s.issued⟩
  | .start name timeline index =>
    .ok { s with
      playback := (({ s.playback with player.timelineKey := name }).startAt timeline index).2 }
  | .call call => do
    let (_, playback) ← s.playback.call call
    return { s with playback }
  | .take => .ok ⟨s.playback.looked, s.issued⟩
  | .note entry => .ok { s with playback := s.playback.note entry }

def acts (s : Performance) (as : List Act) : Except ClockOverflow Performance := as.foldlM act s

def opening (canvas : CanvasSize) (config : Config) (unseeded : Random) : Performance :=
  { playback := .ofConfig config (.ofCanvas canvas) unseeded }

theorem acts_append {s m t : Performance} {before after : List Act}
    (first : s.acts before = .ok m) (later : m.acts after = .ok t) :
    s.acts (before ++ after) = .ok t := by
  rw [acts, List.foldlM_append, ← acts, first]
  exact later

theorem acts_cons {s t : Performance} {a : Act} {as : List Act} :
    s.acts (a :: as) = .ok t ↔ ∃ m, s.act a = .ok m ∧ m.acts as = .ok t := by
  simp only [acts, List.foldlM_cons]
  cases s.act a with
  | error e => simp [bind, Except.bind]
  | ok m => simp [bind, Except.bind]

/-- All commands suited the sounds, and the sounds are those that they left. -/
structure Sounding (s : Performance) : Prop where
  suited : Command.SuitAll ∅ s.issued
  sounds : s.playback.surface.stage.sounds = s.issued.foldl Command.sounding ∅

namespace Sounding

variable {s t : Performance}

/-- Commands that are no longer kept still count, and sounds outlive what is dropped. -/
theorem congr (h : s.Sounding) (issued : t.issued = s.issued)
    (sounds : t.playback.surface.stage.sounds = s.playback.surface.stage.sounds) : t.Sounding :=
  ⟨by rw [issued]; exact h.suited, by rw [issued, sounds]; exact h.sounds⟩

theorem cued (h : s.Sounding) (earlier : t.earlier = s.earlier)
    (cued : s.playback.surface.Cued t.playback.surface) : t.Sounding := by
  obtain ⟨commands, performed, suited⟩ := cued
  have issued : t.issued = s.issued ++ commands := by
    rw [Performance.issued, performed, Surface.log_performAll, earlier, ← List.append_assoc]
    rfl
  constructor
  · rw [issued, Command.suitAll_append, ← h.sounds]
    exact ⟨h.suited, suited⟩
  · rw [issued, List.foldl_append, ← h.sounds, performed, Surface.performAll_sounds]

theorem act {a : Act} (h : s.Sounding) (acted : s.act a = .ok t) : t.Sounding := by
  cases a with
  | leave config unseeded | take =>
    cases acted
    exact h.congr (by simp [issued, Surface.reset, Playback.ofConfig, Playback.looked,
      Surface.takeLog]) rfl
  | start name timeline index =>
    cases acted
    exact h.cued rfl (Playback.startAt_cued { s.playback with player.timelineKey := name } _ _)
  | call call =>
    cases called : s.playback.call call with
    | error e =>
      simp only [Performance.act, called] at acted
      cases acted
    | ok m =>
      simp only [Performance.act, called] at acted
      cases acted
      exact h.cued rfl (Playback.call_cued called)
  | note entry =>
    cases acted
    exact h.congr (by simp [issued]) (by simp)

theorem acts {as : List Act} (h : s.Sounding) (acted : s.acts as = .ok t) : t.Sounding := by
  induction as generalizing s with
  | nil => exact Except.ok.inj acted ▸ h
  | cons a rest ih =>
    obtain ⟨m, first, later⟩ := acts_cons.1 acted
    exact ih (h.act first) later

end Sounding

theorem sounding_opening (canvas : CanvasSize) (config : Config) (unseeded : Random) :
    (opening canvas config unseeded).Sounding := ⟨trivial, rfl⟩

end Performance

namespace Session

open Performance (Act)

/-- What a session plays on its surface is a performance. -/
def Performed (canvas : CanvasSize) (p : Playback) : Prop :=
  ∃ config unseeded as s, (Performance.opening canvas config unseeded).acts as = .ok s ∧
    s.playback = p

variable {canvas : CanvasSize} {s : Session}

theorem Performed.act {p : Playback} (h : Performed canvas p) {a : Act} {q : Playback}
    (acted : ∀ earlier, ∃ later, Performance.act ⟨p, earlier⟩ a = .ok ⟨q, later⟩) :
    Performed canvas q := by
  obtain ⟨config, unseeded, as, ⟨_, earlier⟩, played, rfl⟩ := h
  obtain ⟨later, acted⟩ := acted earlier
  refine ⟨config, unseeded, as ++ [a], ⟨q, later⟩, ?_, rfl⟩
  exact Performance.acts_append played (Performance.acts_cons.2 ⟨_, acted, rfl⟩)

theorem Moves.performed {r t : Progress × Session} (h : Moves r t)
    (performed : Performed canvas r.2.playback) : Performed canvas t.2.playback := by
  induction h with
  | refl => exact performed
  | told before settings playback view ih =>
    rw [playback]
    exact ih
  | looked before ih => exact ih.act (a := .take) fun _ => ⟨_, rfl⟩
  | @called g s c m before called ih =>
    refine ih.act (a := .call c) fun earlier => ⟨earlier, ?_⟩
    simp only [Performance.act, called]
    rfl
  | asked before ih => exact ih

theorem Performed.renew (h : Performed canvas s.playback) : Performed canvas s.renew.playback :=
  h.act (a := .leave s.config (s.streams 0)) fun _ => ⟨_, rfl⟩

theorem Performed.noteRestart (h : Performed canvas s.playback) (key : String) :
    Performed canvas (s.noteRestart key).playback :=
  h.act (a := .note (.restarting key)) fun _ => ⟨_, rfl⟩

theorem Performed.activate (h : Performed canvas s.playback) (key : String) (index : Nat) :
    Performed canvas (s.activate key index).1.playback := by
  obtain ⟨m, started, reached⟩ | ⟨-, missing⟩ := s.activate_cases key index
  · obtain ⟨timeline, -, rfl⟩ := Playback.startNamed_ok started
    obtain ⟨g, moves, -⟩ := reached.moves
    exact moves.performed
      (h.renew.act (a := .start (some key) timeline index) fun _ => ⟨_, rfl⟩)
  · rw [missing]
    exact h.renew

theorem kept_performed : Kept fun n => Performed canvas n.1.playback where
  activated {s key} h := (h.noteRestart key).activate key 0
  endless {s key} h := h.noteRestart key
  reacted {s} input h := by
    obtain unchanged | reached := s.reaction_cases .ended input
    · rw [unchanged]
      exact h
    · obtain ⟨g, moves, -⟩ := reached.moves
      exact moves.performed h

/-- All activations of a session are one performance. -/
theorem performed_takes (registry : Registry) (config : Config) (options : Options)
    (streams : Nat → Random) (inputs : List Input) :
    Performed config.canvas ((start registry config options streams).takes inputs).playback := by
  have blank : Performed config.canvas (.ofConfig config (.ofCanvas config.canvas)) :=
    ⟨config, .ofSeed 0, [], _, rfl, rfl⟩
  refine (kept_performed.session ?_ inputs).1
  unfold opening
  dsimp only
  split
  · exact blank
  · exact Performed.activate (s := Session.printLines _ _) blank _ _

/-- On a surface that is silent at first each sound is started and stopped by turns, whatever is
played on it: what comes first, third and so on starts it, and the rest stops it. It is playing when
it was started last, in the way that it was started, and so it was after each of the commands. A
session is such a performance, with all its activations. -/
theorem sounds_alternate :
    (∀ {canvas : CanvasSize} {config : Config} {unseeded : Random} {as : List Act}
        {s : Performance}, (Performance.opening canvas config unseeded).acts as = .ok s →
      ∀ key, (∀ i change, (Command.cues key s.issued)[i]? = some change →
          (change.isSome = true ↔ i % 2 = 0)) ∧
        s.playback.surface.stage.sounds.get? key = (Command.cues key s.issued).getLast?.join ∧
        ∀ before, before <+: s.issued →
          ((Surface.ofCanvas canvas).performAll before).stage.sounds.get? key =
            (Command.cues key before).getLast?.join) ∧
      ∀ registry config options streams inputs,
        Performed config.canvas ((start registry config options streams).takes inputs).playback := by
  have left (commands : List Command) (key : String) :
      (commands.foldl Command.sounding ∅).get? key =
        (Command.cues key commands).getLast?.join := by
    rw [Command.get?_foldl_sounding]
    cases (Command.cues key commands).getLast? <;> rfl
  refine ⟨?_, performed_takes⟩
  intro canvas config unseeded as s played key
  have sounding := (Performance.sounding_opening canvas config unseeded).acts played
  refine ⟨?_, ?_, ?_⟩
  · intro i change cue
    exact sounding.suited.alternate cue
  · rw [sounding.sounds]
    exact left s.issued key
  · intro before earlier
    rw [Surface.performAll_sounds]
    exact left before key

/-- A loop that goes on in the next scene, where it is stopped and begins anew. -/
def wavesAshore : Timeline := [.playSound ⟨"waves", true⟩, .timelineTransition "cave"]

def wavesInCave : Timeline :=
  [.playSound ⟨"waves", false⟩, .dialog { text := "Hi" }, .clearSound "waves",
    .clearSound "waves", .playSound ⟨"waves", false⟩]

def wavesHeard : List Act :=
  [.start (some "shore") wavesAshore 0, .take, .leave .default (.ofSeed 0),
    .start (some "cave") wavesInCave 0, .call .advance, .call .advance]

theorem waves_alternate :
    ∃ s, (Performance.opening defaultCanvas .default (.ofSeed 0)).acts wavesHeard = .ok s ∧
      Command.cues "waves" s.issued = [some true, none, some false] ∧
      s.playback.surface.stage.sounds.get? "waves" = some false ∧
      ∀ before, before <+: s.issued →
        ((Surface.ofCanvas defaultCanvas).performAll before).stage.sounds.get? "waves" =
          (Command.cues "waves" before).getLast?.join := by
  have played : ∃ s, (Performance.opening defaultCanvas .default (.ofSeed 0)).acts wavesHeard =
      .ok s := ⟨_, rfl⟩
  obtain ⟨s, played⟩ := played
  obtain ⟨-, last, always⟩ := sounds_alternate.1 played "waves"
  have cues : Command.cues "waves" s.issued = [some true, none, some false] := by
    cases played
    rfl
  exact ⟨s, played, cues, by rw [last, cues]; rfl, always⟩

end Session

end VisualNovel
