import VisualNovel.Stage.Basic

namespace VisualNovel

/-- A change that is told. -/
inductive Effect where
  | imageShown (layer : Layer) (key : String) (fade : Fade)
  | layerCleared (layer : Layer)
  | soundStarted (key : String) (looping : Bool)
  | soundStopped (key : String)
  | linkShown (text url : String)
  | linkHidden
deriving Repr, BEq, DecidableEq

namespace Effect

/-- How an image comes or goes. -/
def fading (fade : Fade) : String :=
  match fade with
  | .none => ""
  | .fadeIn d => s!", fade in {d.millis}ms"
  | .fadeOut d => s!", fade out {d.millis}ms"

def text : Effect → String
  | .imageShown layer key fade => s!"ShowImage: {key} ({layer.name}" ++ fading fade ++ ")"
  | .layerCleared layer => "ClearLayer: " ++ layer.name
  | .soundStarted key looping => (if looping then "PlayLoop: " else "PlaySound: ") ++ key
  | .soundStopped key => "StopSound: " ++ key
  | .linkShown text url => s!"WebLink: {text} <{url}>"
  | .linkHidden => "HideWebLink"

end Effect

structure View where
  timeline : Option String := none
  background : Option String := none
  frame : Option String := none
  /-- From back to front. -/
  foreground : List String := []
  sounds : Dict Unit := ∅
  actor : Option String := none
  dialog : String := ""
  webLink : Option String := none
deriving Repr, BEq

/-- What is new since the last look. -/
structure Delta where
  newTimeline : Option String := none
  effects : List Effect := []
  speaker : Option String := none
  dialog : Option String := none
deriving Repr, BEq, DecidableEq

namespace View

/-- Sounds go on when a scene is left. -/
def reset (v : View) : View := { sounds := v.sounds }

def apply (v : View) : Command → View
  | .setBackground key _ _ => { v with background := some key }
  | .clearBackground => { v with background := none }
  | .setFrame key _ => { v with frame := some key }
  | .addForeground key _ => { v with foreground := v.foreground ++ [key] }
  | .clearForeground => { v with foreground := [] }
  | .setActorName name _ => { v with actor := some name }
  | .clearActorName => { v with actor := none }
  | .setDialogText text _ => { v with dialog := text }
  | .clearDialogText => { v with dialog := "" }
  | .playSound key _ => { v with sounds := v.sounds.insert key () }
  | .stopSound key => { v with sounds := v.sounds.erase key }
  | .showWebLink link => { v with webLink := some link.url }
  | .hideWebLink => { v with webLink := none }
  | .addButton _ => v
  | .setButtonState _ _ => v
  | .clearButtons => v
  | .setAdvanceEnabled _ => v

/-- What a command changes that is worth telling. Images on the foreground, sounds and links are
told each time, other images only when they are new. -/
def effect? (v : View) : Command → Option Effect
  | .setBackground key _ fade =>
    if v.background = some key then none else some (.imageShown .background key fade)
  | .clearBackground => v.background.map fun _ => .layerCleared .background
  | .setFrame key _ => if v.frame = some key then none else some (.imageShown .frame key .none)
  | .addForeground key _ => some (.imageShown .foreground key .none)
  | .clearForeground => if v.foreground.isEmpty then none else some (.layerCleared .foreground)
  | .playSound key looping => some (.soundStarted key looping)
  | .stopSound key => if v.sounds.contains key then some (.soundStopped key) else none
  | .showWebLink link => some (.linkShown link.text link.url)
  | .hideWebLink => v.webLink.map fun _ => .linkHidden
  | _ => none

def applyAll (v : View) (commands : List Command) : View := commands.foldl apply v

def effects (v : View) : List Command → List Effect
  | [] => []
  | c :: rest => (v.effect? c).toList ++ (v.apply c).effects rest

def speaker (named : Option String) : Command → Option String
  | .setActorName name _ => some name
  | .clearActorName => none
  | _ => named

def line (shown : Option String) : Command → Option String
  | .setDialogText text _ => if text.isEmpty then none else some text
  | .clearDialogText => none
  | _ => shown

def newTimeline? (v : View) (timeline : Option String) : Option String :=
  if timeline = v.timeline then none else timeline

/-- Look at what some commands did while a timeline was played. -/
def update (v : View) (commands : List Command) (timeline : Option String) : Delta × View :=
  let new := v.newTimeline? timeline
  ({ newTimeline := new
     effects := v.effects commands
     speaker := commands.foldl speaker none
     dialog := commands.foldl line none },
    { v with timeline := new <|> v.timeline }.applyAll commands)

end View

namespace Delta

def isEmpty (d : Delta) : Bool :=
  d.newTimeline.isNone && d.effects.isEmpty && d.speaker.isNone && d.dialog.isNone

def lines (d : Delta) : List String :=
  d.newTimeline.elim [] (fun key => [s!"=== Timeline: {key} ===", ""])
    ++ (if d.effects.isEmpty then []
      else "[Effects]" :: d.effects.map (fun e => "  " ++ e.text) ++ [""])
    ++ d.speaker.elim [] (fun name => [name ++ ":"])
    ++ d.dialog.elim [] (fun text => [text, ""])

def text (d : Delta) : String := String.join (d.lines.map (· ++ "\n"))

end Delta

end VisualNovel
