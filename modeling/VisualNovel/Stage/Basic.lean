import VisualNovel.Dict
import VisualNovel.Stage.Command

namespace VisualNovel

/-- The layers from back to front. -/
inductive Layer where
  | background
  | foreground
  | frame
deriving Repr, BEq, DecidableEq

def Layer.name : Layer → String
  | .background => "background"
  | .foreground => "foreground"
  | .frame => "frame"

structure PlacedImage where
  key : String
  position : Position
  fade : Fade := .none
deriving Repr, BEq

structure Stage where
  canvas : CanvasSize
  background : Option PlacedImage := none
  /-- From back to front. -/
  foreground : List PlacedImage := []
  frame : Option PlacedImage := none
  actorName : Option String := none
  dialogText : String := ""
  buttons : List (Button × ButtonState) := []
  /-- The sounds that are playing, and whether they start over at their end. -/
  sounds : Dict Bool := ∅
  webLink : Option WebLinkView := none
  /-- Whether a pointer down anywhere is taken. -/
  advanceEnabled : Bool := true
deriving Repr, BEq

namespace Stage

/-- Of several buttons with the number the first takes the state. -/
def setState (id : Nat) (state : ButtonState) :
    List (Button × ButtonState) → List (Button × ButtonState)
  | [] => []
  | (button, old) :: rest =>
    if button.id = id then (button, state) :: rest else (button, old) :: setState id state rest

def apply (s : Stage) : Command → Stage
  | .setBackground key position fade => { s with background := some ⟨key, position, fade⟩ }
  | .clearBackground => { s with background := none }
  | .setFrame key position => { s with frame := some ⟨key, position, .none⟩ }
  | .addForeground key position =>
    { s with foreground := s.foreground ++ [⟨key, position, .none⟩] }
  | .clearForeground => { s with foreground := [] }
  | .setActorName name _ => { s with actorName := some name }
  | .clearActorName => { s with actorName := none }
  | .setDialogText text _ => { s with dialogText := text }
  | .clearDialogText => { s with dialogText := "" }
  | .addButton button => { s with buttons := s.buttons ++ [(button, .idle)] }
  | .setButtonState id state => { s with buttons := setState id state s.buttons }
  | .clearButtons => { s with buttons := [] }
  | .playSound key looping => { s with sounds := s.sounds.insert key looping }
  | .stopSound key => { s with sounds := s.sounds.erase key }
  | .showWebLink link => { s with webLink := some link }
  | .hideWebLink => { s with webLink := none }
  | .setAdvanceEnabled enabled => { s with advanceEnabled := enabled }

/-- Nothing is left but the sounds, which outlive a scene. -/
def reset (s : Stage) : Stage := { canvas := s.canvas, sounds := s.sounds }

def images (s : Stage) : List (Layer × PlacedImage) :=
  s.background.toList.map (.background, ·) ++ s.foreground.map (.foreground, ·)
    ++ s.frame.toList.map (.frame, ·)

def imageNames (s : Stage) : List String :=
  s.images.map fun (layer, image) => layer.name ++ ":" ++ image.key

def buttonState? (s : Stage) (id : Nat) : Option ButtonState :=
  (s.buttons.find? (·.1.id == id)).map (·.2)

def isPlaying (s : Stage) (key : String) : Bool := s.sounds.contains key

end Stage

/-- A stage and the commands that it got since they were last taken. -/
structure Surface where
  stage : Stage
  log : Array Command := #[]
deriving Repr, BEq

namespace Surface

def ofCanvas (canvas : CanvasSize) : Surface := { stage := { canvas } }

def perform (s : Surface) (command : Command) : Surface :=
  ⟨s.stage.apply command, s.log.push command⟩

def performAll (s : Surface) (commands : List Command) : Surface := commands.foldl perform s

def takeLog (s : Surface) : List Command × Surface := (s.log.toList, ⟨s.stage, #[]⟩)

def reset (s : Surface) : Surface := ⟨s.stage.reset, #[]⟩

theorem log_perform (s : Surface) (c : Command) : (s.perform c).log.toList = s.log.toList ++ [c] := by
  simp [perform]

theorem performAll_append (s : Surface) (a b : List Command) :
    s.performAll (a ++ b) = (s.performAll a).performAll b := by
  simp [performAll]

theorem stage_performAll (s : Surface) (commands : List Command) :
    (s.performAll commands).stage = commands.foldl Stage.apply s.stage := by
  induction commands generalizing s with
  | nil => rfl
  | cons c rest ih => exact ih (s.perform c)

theorem log_performAll (s : Surface) (commands : List Command) :
    (s.performAll commands).log.toList = s.log.toList ++ commands := by
  induction commands generalizing s with
  | nil => simp [performAll]
  | cons c rest ih => simpa [performAll, perform] using ih (s.perform c)

end Surface

end VisualNovel
