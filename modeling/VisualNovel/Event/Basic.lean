import VisualNovel.Json.Basic

namespace VisualNovel

/-- An option that leads to a timeline. -/
structure Choice where
  text : String
  key : String
deriving Repr, BEq, DecidableEq

/-- An option that can be selected together with others. -/
structure MultiChoice where
  text : String
  correct : Bool
  /-- The option must never be picked. -/
  contraindication : Bool := false
  /-- What the option adds to the score. -/
  point : Option Float := none
deriving Repr, BEq

structure DialogLine where
  text : String
  actorName : Option String := none
  textFillColor : Option String := none
  textFillAlpha : Option Float32 := none
  actorFillColor : Option String := none
  actorFillAlpha : Option Float32 := none
deriving Repr, BEq

structure Image where
  key : String
  x : Option Float32 := none
  y : Option Float32 := none
deriving Repr, BEq

structure Background extends Image where
  effect : Option String := none
deriving Repr, BEq

structure SceneJump where
  key : String
  /-- Handed to the scene as it is. -/
  data : Option Json := none
deriving Repr, BEq

structure MultiChoiceSet where
  choices : List MultiChoice
  correctKey : String
  incorrectKey : String
  minSelect : Nat := 0
  maxSelect : Option Nat := none
  shuffle : Bool := false
deriving Repr, BEq

structure WebLink where
  url : String
  text : Option String := none
  target : Option String := none
deriving Repr, BEq, DecidableEq

namespace WebLink

def label (link : WebLink) : String := link.text.getD link.url

def defaultTarget : String := "_blank"

def targetName (link : WebLink) : String := link.target.getD defaultTarget

end WebLink

structure SoundCue where
  key : String
  looping : Bool := false
deriving Repr, BEq, DecidableEq

inductive Event where
  | dialog (line : DialogLine)
  | clearDialog
  | setBackground (image : Background)
  | clearBackground
  | setFrame (image : Image)
  | addForeground (image : Image)
  | clearForeground
  | timelineTransition (key : String)
  | sceneTransition (jump : SceneJump)
  | choice (options : List Choice)
  | multiChoice (set : MultiChoiceSet)
  | showWebLink (link : WebLink)
  | hideWebLink
  | playSound (cue : SoundCue)
  | clearSound (key : String)
  /-- Any kind of event that has no meaning here. -/
  | unknown
deriving Repr, BEq

/-- Whether the next event follows at once or something has to happen first. -/
inductive Pacing where
  | immediate
  | blocking
deriving Repr, BEq, DecidableEq

namespace Event

def tag : Event → String
  | .dialog _ => "dialog"
  | .clearDialog => "clear_dialog"
  | .setBackground _ => "set_background"
  | .clearBackground => "clear_background"
  | .setFrame _ => "set_frame"
  | .addForeground _ => "add_foreground"
  | .clearForeground => "clear_foreground"
  | .timelineTransition _ => "timeline_transition"
  | .sceneTransition _ => "scene_transition"
  | .choice _ => "choice"
  | .multiChoice _ => "multi_choice"
  | .showWebLink _ => "show_weblink"
  | .hideWebLink => "hide_weblink"
  | .playSound _ => "play_sound"
  | .clearSound _ => "clear_sound"
  | .unknown => "unknown"

def pacing : Event → Pacing
  | .clearDialog => .immediate
  | .setBackground _ => .immediate
  | .clearBackground => .immediate
  | .setFrame _ => .immediate
  | .addForeground _ => .immediate
  | .clearForeground => .immediate
  | .playSound _ => .immediate
  | .clearSound _ => .immediate
  | .hideWebLink => .immediate
  | .dialog _ => .blocking
  | .timelineTransition _ => .blocking
  | .sceneTransition _ => .blocking
  | .choice _ => .blocking
  | .multiChoice _ => .blocking
  | .showWebLink _ => .blocking
  | .unknown => .blocking

def isBlocking (event : Event) : Bool := event.pacing == .blocking

end Event

abbrev Timeline := List Event

end VisualNovel
