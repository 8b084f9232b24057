import VisualNovel.Proofs.Session.Sounds

namespace VisualNovel

/-- What a surface gets when a gate is opened. -/
def Gate.opening (g : Gate) (config : Config) : List Command :=
  .clearButtons :: .setAdvanceEnabled false ::
    (g.buttons config.layout config.canvas).map .addButton

namespace DialogLine

def style (line : DialogLine) : TextStyle := ⟨line.textFillColor, line.textFillAlpha⟩

/-- A line shows the name of its speaker in the style of names, and one without a name, or with an
empty one, clears the name that was there. -/
def naming (line : DialogLine) : Command :=
  let name := line.actorName.getD ""
  if name = "" then .clearActorName
  else .setActorName name ⟨line.actorFillColor, line.actorFillAlpha⟩

theorem actorCommand_eq (line : DialogLine) : Playback.actorCommand line = line.naming := by
  unfold Playback.actorCommand naming
  cases line.actorName with
  | none => rfl
  | some name => simp only [Option.getD_some, String.isEmpty_iff]

theorem naming_sounding (line : DialogLine) (sounds : Dict Bool) :
    line.naming.sounding sounds = sounds := by
  unfold naming
  dsimp only
  split <;> rfl

end DialogLine

namespace Event

/-- What a surface gets at once when an event is played. Gates without options are not opened, and
sounds are left alone when nothing would change. -/
def opening (config : Config) (random : Random) (playing : String → Bool) : Event → List Command
  | .dialog line => [line.naming, .setDialogText "" line.style]
  | .clearDialog => [.clearActorName, .clearDialogText]
  | .setBackground image =>
    [.setBackground image.key (config.canvas.place image.x image.y)
      (.ofEffect image.effect config.fadeDuration)]
  | .clearBackground => [.clearBackground]
  | .setFrame image => [.setFrame image.key config.canvas.center]
  | .addForeground image => [.addForeground image.key (config.canvas.place image.x image.y)]
  | .clearForeground => [.clearForeground]
  | .timelineTransition _ => []
  | .sceneTransition _ => []
  | .choice options =>
    if options = [] then [] else (Gate.single ⟨options⟩).opening config
  | .multiChoice set =>
    if set.choices = [] then []
    else (Gate.multi (Gate.Multi.forSet set random).1).opening config
  | .showWebLink link => [.showWebLink ⟨link.url, link.label, link.targetName⟩]
  | .hideWebLink => [.hideWebLink]
  | .playSound cue => if playing cue.key then [] else [.playSound cue.key cue.looping]
  | .clearSound key => if playing key then [.stopSound key] else []
  | .unknown => []

/-- What a surface gets when the pointer goes down at an event: the text of a line, unless it has
none. -/
def completion : Event → List Command
  | .dialog line => if line.text = "" then [] else [.setDialogText line.text line.style]
  | _ => []

def commands (config : Config) (random : Random) (playing : String → Bool) (e : Event) :
    List Command := e.opening config random playing ++ e.completion

def sound? (key : String) : Event → Option Bool
  | .playSound cue => if cue.key = key then some true else none
  | .clearSound k => if k = key then some false else none
  | _ => none

end Event

/-- The sounds that are playing after some events. The last event about a sound tells. -/
def playsAfter (events : List Event) (key : String) : Bool :=
  (events.filterMap (Event.sound? key)).getLast?.getD false

theorem playsAfter_concat (events : List Event) (e : Event) (key : String) :
    playsAfter (events ++ [e]) key = (e.sound? key).getD (playsAfter events key) := by
  cases asks : e.sound? key with
  | none => simp [playsAfter, asks]
  | some plays => simp [playsAfter, asks]

def commandsFrom (config : Config) (random : Random) (before : List Event) :
    List Event → List Command
  | [] => []
  | e :: rest =>
    e.commands config random (playsAfter before) ++ commandsFrom config random (before ++ [e]) rest

theorem commandsFrom_append (config : Config) (random : Random) (before events rest : List Event) :
    commandsFrom config random before (events ++ rest) =
      commandsFrom config random before events ++
        commandsFrom config random (before ++ events) rest := by
  induction events generalizing before with
  | nil => simp [commandsFrom]
  | cons e events ih => simp [commandsFrom, ih]

theorem commandsFrom_concat (config : Config) (random : Random) (before : List Event) (e : Event) :
    commandsFrom config random [] (before ++ [e]) =
      commandsFrom config random [] before ++ e.commands config random (playsAfter before) := by
  simp [commandsFrom_append, commandsFrom]

theorem Gate.foldl_sounding_opening (g : Gate) (config : Config) (sounds : Dict Bool) :
    (g.opening config).foldl Command.sounding sounds = sounds := by
  have silent (buttons : List Button) :
      (buttons.map Command.addButton).foldl Command.sounding sounds = sounds := by
    induction buttons with
    | nil => rfl
    | cons b rest ih => exact ih
  exact silent _

namespace Event

theorem foldl_sounding_completion (e : Event) (sounds : Dict Bool) :
    e.completion.foldl Command.sounding sounds = sounds := by
  cases e with
  | dialog line =>
    simp only [completion]
    split <;> rfl
  | _ => rfl

theorem contains_opening (e : Event) (config : Config) (random : Random) (sounds : Dict Bool)
    (key : String) :
    ((e.opening config random sounds.contains).foldl Command.sounding sounds).contains key =
      (e.sound? key).getD (sounds.contains key) := by
  cases e with
  | dialog line =>
    simp only [opening, List.foldl_cons, List.foldl_nil, line.naming_sounding]
    rfl
  | choice options =>
    simp only [opening]
    split
    · rfl
    · rw [Gate.foldl_sounding_opening]
      rfl
  | multiChoice set =>
    simp only [opening]
    split
    · rfl
    · rw [Gate.foldl_sounding_opening]
      rfl
  | playSound cue =>
    simp only [opening, sound?]
    split
    · next playing =>
      split
      · next same => exact same ▸ playing
      · rfl
    · split
      · next same => simp [Command.sounding, Dict.contains, same]
      · next other =>
        simp [Command.sounding, Dict.contains, Dict.get?_insert_of_ne _ _ (Ne.symm other)]
  | clearSound k =>
    simp only [opening, sound?]
    split
    · split
      · next same => simp [Command.sounding, Dict.contains, Dict.get?_erase, same]
      · next other => simp [Command.sounding, Dict.contains, Dict.get?_erase, Ne.symm other]
    · next silent =>
      split
      · next same => exact same ▸ Bool.eq_false_iff.2 silent
      · rfl
  | _ => rfl

/-- What an event asks of a sound is done when it is played. -/
theorem contains_commands (e : Event) (config : Config) (random : Random) (sounds : Dict Bool)
    (key : String) :
    ((e.commands config random sounds.contains).foldl Command.sounding sounds).contains key =
      (e.sound? key).getD (sounds.contains key) := by
  rw [commands, List.foldl_append, foldl_sounding_completion, contains_opening]

end Event

namespace Playback

/-- An immediate event is carried out by the commands that are read off it. -/
theorem apply_opening {p : Playback} {e : Event} (immediate : e.pacing = .immediate)
    (size : p.canvas = p.player.config.canvas) : (p.apply e).surface =
      p.surface.performAll
        (e.opening p.player.config p.player.random p.surface.stage.isPlaying) := by
  cases e with
  | setBackground image | addForeground image | setFrame image =>
    simp [apply, Event.opening, ← size]
  | playSound cue =>
    simp only [apply, Event.opening]
    split <;> simp
  | clearSound key =>
    simp only [apply, Event.opening]
    split <;> simp
  | clearDialog | clearBackground | clearForeground | hideWebLink => rfl
  | _ => cases immediate

theorem openGate_opening {p q : Playback} (g : Gate) (size : p.canvas = p.player.config.canvas)
    (config : q.player.config = p.player.config) (surface : q.surface = p.surface) :
    (q.openGate g).2.surface = p.surface.performAll (g.opening p.player.config) := by
  have canvas : q.canvas = p.player.config.canvas := by
    rw [← size, canvas, surface, Playback.canvas]
  rw [openGate_surface, config, canvas, surface]
  rfl

/-- So is a blocking one, as far as it is carried out at once. -/
theorem block_opening {p : Playback} {e : Event} (blocking : e.pacing = .blocking)
    (size : p.canvas = p.player.config.canvas) : (p.block e).2.surface =
      p.surface.performAll
        (e.opening p.player.config p.player.random p.surface.stage.isPlaying) := by
  cases e with
  | dialog line =>
    simp only [block, showLine, DialogLine.actorCommand_eq]
    split <;> rfl
  | choice options =>
    simp only [block, Event.opening, List.isEmpty_iff]
    split
    · rfl
    · exact openGate_opening _ size rfl rfl
  | multiChoice set =>
    simp only [block, Event.opening, List.isEmpty_iff]
    split
    · rfl
    · exact openGate_opening _ size (by simp) (by simp)
  | timelineTransition key | sceneTransition jump | showWebLink link | unknown =>
    simp [block, Event.opening, linkView]
  | _ => cases blocking

end Playback

end VisualNovel
