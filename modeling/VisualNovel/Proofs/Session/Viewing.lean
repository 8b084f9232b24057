import VisualNovel.Proofs.Dict
import VisualNovel.Proofs.Session.Turns

/-!
The view of a terminal and the stage of its player change with the same commands, one of them later
than the other. Where a line is asked for and where another timeline is begun they agree.
-/

namespace VisualNovel

/-- Of a stage a terminal shows the names of images, sounds and links, and the texts. -/
structure View.Shows (v : View) (s : Stage) : Prop where
  background : v.background = s.background.map PlacedImage.key
  frame : v.frame = s.frame.map PlacedImage.key
  foreground : v.foreground = s.foreground.map PlacedImage.key
  sounds : v.sounds.keys = s.sounds.keys
  actor : v.actor = s.actorName
  dialog : v.dialog = s.dialogText
  webLink : v.webLink = s.webLink.map WebLinkView.url

namespace View

theorem Shows.apply {v : View} {s : Stage} (h : v.Shows s) (c : Command) :
    (v.apply c).Shows (s.apply c) := by
  cases c with
  | setBackground key position fade => exact { h with background := rfl }
  | clearBackground => exact { h with background := rfl }
  | setFrame key position => exact { h with frame := rfl }
  | addForeground key position =>
    exact { h with foreground := by simp [View.apply, Stage.apply, h.foreground] }
  | clearForeground => exact { h with foreground := rfl }
  | setActorName name style => exact { h with actor := rfl }
  | clearActorName => exact { h with actor := rfl }
  | setDialogText text style => exact { h with dialog := rfl }
  | clearDialogText => exact { h with dialog := rfl }
  | playSound key looping => exact { h with sounds := Dict.keys_insert h.sounds key () looping }
  | stopSound key => exact { h with sounds := Dict.keys_erase h.sounds key }
  | showWebLink link => exact { h with webLink := rfl }
  | hideWebLink => exact { h with webLink := rfl }
  | addButton button | setButtonState id state | clearButtons | setAdvanceEnabled enabled =>
    exact { h with }

theorem Shows.applyAll {v : View} {s : Stage} (h : v.Shows s) (commands : List Command) :
    (v.applyAll commands).Shows (commands.foldl Stage.apply s) := by
  induction commands generalizing v s with
  | nil => exact h
  | cons c rest ih => exact ih (h.apply c)

/-- Only the sounds outlive a scene, on the stage and for the terminal. -/
theorem Shows.reset {v : View} {s : Stage} (h : v.Shows s) : v.reset.Shows s.reset :=
  ⟨rfl, rfl, rfl, h.sounds, rfl, rfl, rfl⟩

/-- The commands that were not looked at yet lead from what the view shows to what there is. -/
def Tracks (v : View) (s : Surface) : Prop :=
  ∃ seen, v.Shows seen ∧ s.stage = s.log.toList.foldl Stage.apply seen

theorem Tracks.performAll {v : View} {s : Surface} (h : v.Tracks s) (commands : List Command) :
    v.Tracks (s.performAll commands) := by
  obtain ⟨seen, shows, stage⟩ := h
  refine ⟨seen, shows, ?_⟩
  rw [Surface.stage_performAll, Surface.log_performAll, List.foldl_append, stage]

theorem Tracks.shows {v : View} {s : Surface} (h : v.Tracks s) (empty : s.log = #[]) :
    v.Shows s.stage := by
  obtain ⟨seen, shows, stage⟩ := h
  rw [stage, empty]
  exact shows

theorem tracks_of_shows {v : View} {s : Stage} (h : v.Shows s) : v.Tracks ⟨s, #[]⟩ := ⟨s, h, rfl⟩

/-- To which timeline a view belongs does not matter for what it shows. -/
theorem Tracks.update {v : View} {s : Surface} (h : v.Tracks s) (timeline : Option String) :
    (v.update s.log.toList timeline).2.Tracks ⟨s.stage, #[]⟩ := by
  obtain ⟨seen, shows, stage⟩ := h
  have renamed : Shows { v with timeline := v.newTimeline? timeline <|> v.timeline } seen :=
    { shows with }
  refine tracks_of_shows ?_
  rw [stage]
  exact renamed.applyAll s.log.toList

end View

def Surface.Performed (s t : Surface) : Prop := ∃ commands, t = s.performAll commands

namespace Surface.Performed

theorem refl (s : Surface) : s.Performed s := ⟨[], rfl⟩

theorem trans {s t u : Surface} (hst : s.Performed t) (htu : t.Performed u) : s.Performed u := by
  obtain ⟨cs, rfl⟩ := hst
  obtain ⟨ds, rfl⟩ := htu
  exact ⟨cs ++ ds, (performAll_append s cs ds).symm⟩

theorem perform (s : Surface) (c : Command) : s.Performed (s.perform c) := ⟨[c], rfl⟩

theorem of_redrawn {s t : Surface} (h : s.Redrawn t) : s.Performed t := by
  obtain ⟨commands, performed, -⟩ := h
  exact ⟨commands, performed⟩

theorem canvas {s t : Surface} (h : s.Performed t) : t.stage.canvas = s.stage.canvas := by
  obtain ⟨commands, rfl⟩ := h
  exact performAll_canvas s commands

end Surface.Performed

namespace Playback

open Surface (Performed)

theorem blocked_performed {p q : Playback} {e : Event} {g : Progress} (h : Blocked p q e g) :
    p.surface.Performed q.surface := by
  cases h with
  | typing text hidden player surface | waiting player surface => exact .of_redrawn surface
  | stalled player surface | restart player surface | scene player surface =>
    exact surface ▸ .refl _
  | gate opens player surface =>
    rw [surface]
    exact ((Performed.perform _ _).trans (.perform _ _)).trans ⟨_, rfl⟩

theorem ran_performed {p m : Playback} {timeline : Timeline} {g : Progress}
    (h : Ran p timeline g m) : p.surface.Performed m.surface := by
  cases h with
  | ended left passed player surface => exact surface ▸ .of_redrawn passed.surface
  | blocked left passed blocked =>
    exact (Performed.of_redrawn (by simpa using passed.surface)).trans (blocked_performed blocked)

theorem startAt_performed (p : Playback) (timeline : Timeline) (index : Nat) :
    p.surface.Performed (p.startAt timeline index).2.surface := by
  have readied : p.surface.Performed (p.readied timeline index).surface := by
    simpa [readied] using Performed.perform _ _
  have ran := ran_performed (run_ran (p.readied timeline index))
  exact readied.trans ran

theorem step_performed {p q : Playback} {c : Call} {g : Progress} (h : Step p q c g) :
    p.surface.Performed q.surface := by
  cases h with
  | finished navigation same | ungated navigation gate same | unshown navigation reveal same =>
    exact same ▸ .refl _
  | ignored navigation enabled player surface
  | refused navigation gated pressed player surface
  | resolved navigation gated pressed player surface => exact surface ▸ .refl _
  | completed navigation enabled shown player surface
  | toggled navigation gated pressed player surface
  | fellBack navigation gated pressed player surface => exact surface ▸ .perform _ _
  | ran navigation enabled reveal run player surface =>
    exact surface ▸ ran_performed (ran_of_run run)
  | showing navigation shown ticked incomplete player surface
  | shown navigation shown ticked complete player surface => exact .of_redrawn surface

end Playback

theorem View.Tracks.performed {v : View} {s t : Surface} (h : v.Tracks s)
    (performed : s.Performed t) : v.Tracks t := by
  obtain ⟨commands, rfl⟩ := performed
  exact h.performAll commands

namespace Session

/-- The view shows the stage, and no command is left to look at. -/
structure UpToDate (s : Session) : Prop where
  looked : s.playback.surface.log = #[]
  shows : s.view.Shows s.playback.surface.stage

/-- The view tracks the stage, and is up to date at prompts and restarts. -/
structure Viewed (n : Next) : Prop where
  tracks : n.1.view.Tracks n.1.playback.surface
  looked : n.2.isSome = true ∨ n.1.phase = .prompting → n.1.playback.surface.log = #[]

theorem Viewed.upToDate {n : Next} (h : Viewed n)
    (there : n.2.isSome = true ∨ n.1.phase = .prompting) : n.1.UpToDate :=
  ⟨h.looked there, h.tracks.shows (h.looked there)⟩

theorem Moves.tracks {r t : Progress × Session} (h : Moves r t)
    (tracks : r.2.view.Tracks r.2.playback.surface) :
    t.2.view.Tracks t.2.playback.surface := by
  induction h with
  | refl => exact tracks
  | told before settings playback view ih =>
    rw [playback, view]
    exact ih
  | looked before ih => exact ih.update _
  | called before called ih =>
    have step := Playback.call_step called
    exact ih.performed (Playback.step_performed step)
  | asked before ih => exact ih

theorem Next.Reached.viewed {r : Progress × Session} {n : Next} (h : Next.Reached r n)
    (tracks : r.2.view.Tracks r.2.playback.surface) : Viewed n := by
  obtain ⟨g, moves, -⟩ := h.moves
  exact ⟨moves.tracks tracks, h.looked⟩

theorem viewed_finish {s : Session} (tracks : s.view.Tracks s.playback.surface)
    (result : Except Failure Outcome) : Viewed (s.finish result, none) := by
  refine ⟨tracks, ?_⟩
  rintro (next | prompting)
  · cases next
  · cases prompting

/-- No command is lost when a scene is left, because none is left to look at. -/
theorem UpToDate.activate {s : Session} (h : s.UpToDate) (key : String) (index : Nat) :
    Viewed (s.activate key index) := by
  have renewed : s.renew.view.Tracks s.renew.playback.surface :=
    View.tracks_of_shows h.shows.reset
  obtain ⟨m, started, reached⟩ | ⟨-, missing⟩ := s.activate_cases key index
  · obtain ⟨timeline, -, rfl⟩ := Playback.startNamed_ok started
    exact reached.viewed (renewed.performed (Playback.startAt_performed _ timeline index))
  · rw [missing]
    exact viewed_finish renewed _

theorem kept_viewed : Kept Viewed where
  activated {s key} h := by
    obtain ⟨looked, shows⟩ := h.upToDate (.inl rfl)
    exact UpToDate.activate ⟨by simpa using looked, by simpa using shows⟩ key 0
  endless {s key} h := viewed_finish (by simpa using h.tracks) _
  reacted {s} input h := by
    obtain unchanged | reached := s.reaction_cases .ended input
    · rw [unchanged]
      exact h
    · exact reached.viewed h.tracks

theorem viewed_opening (registry : Registry) (config : Config) (options : Options)
    (streams : Nat → Random) : Viewed (opening registry config options streams) := by
  have blank : View.Shows {} (Surface.ofCanvas config.canvas).stage :=
    ⟨rfl, rfl, rfl, rfl, rfl, rfl, rfl⟩
  unfold opening
  dsimp only
  split
  · exact viewed_finish (View.tracks_of_shows blank) _
  · exact UpToDate.activate ⟨rfl, blank⟩ _ _

/-- Whatever a session is given, at each prompt its view shows the stage of its player, and at each
restart too, where no command is left that a new scene would drop. The restarts are those that the
host recorded. -/
theorem view_shows_stage {registry : Registry} {config : Config} {options : Options}
    {streams : Nat → Random} (inputs : List Input) :
    (((start registry config options streams).takes inputs).phase = .prompting →
        ((start registry config options streams).takes inputs).UpToDate) ∧
      (∀ t ∈ allTurns registry config options streams inputs, t.1.UpToDate) ∧
      (allTurns registry config options streams inputs).map Prod.snd =
        ((start registry config options streams).takes inputs).playback.restarts := by
  obtain ⟨last, turned⟩ :=
    kept_viewed.session (viewed_opening registry config options streams) inputs
  refine ⟨?_, ?_, allTurns_recorded registry config options streams inputs⟩
  · intro prompting
    exact last.upToDate (.inr prompting)
  · intro t mem
    exact (turned t mem).upToDate (.inl rfl)

/-- A scene with an image and a sound, of which only the sound is left in the next one. -/
def twoScenes : Registry :=
  (Registry.insert {} "shore" [.addForeground ⟨"boat", none, none⟩, .playSound ⟨"waves", true⟩,
    .choice [⟨"Go", "cave"⟩]]).insert "cave"
      [.setFrame ⟨"rocks", none, none⟩, .dialog { text := "Hi" }]

theorem view_shows_second_scene :
    ∃ s, (start twoScenes .default { start := "shore" }).takes [.line (.text "1"), .time .longest] =
        s ∧ s.UpToDate ∧ s.playback.restarts = ["cave"] ∧ s.view.foreground = [] ∧
      s.view.frame = some "rocks" ∧ s.view.sounds.keys = ["waves"] ∧ s.view.dialog = "Hi" ∧
      ∀ t ∈ allTurns twoScenes .default { start := "shore" } (fun _ => .ofSeed 0)
        [.line (.text "1"), .time .longest], t.1.UpToDate := by
  obtain ⟨atPrompt, atRestarts, -⟩ := @view_shows_stage twoScenes .default { start := "shore" }
    (fun _ => .ofSeed 0) [.line (.text "1"), .time .longest]
  exact ⟨_, rfl, atPrompt rfl, rfl, rfl, rfl, rfl, rfl, atRestarts⟩

end Session

end VisualNovel
