import VisualNovel.Playback.Step
import VisualNovel.Session.Reply
import VisualNovel.View.Basic

namespace VisualNovel

namespace Session

structure Options where
  start : String := defaultTimeline
  /-- Where the first timeline is entered. -/
  index : Option Nat := none
  /-- Whether the state of the player is told after each step. -/
  debug : Bool := false
  /-- Whether lines are shown as time goes by. -/
  animate : Bool := true
deriving Repr, BEq, DecidableEq

inductive Outcome where
  /-- The snapshot brings back the event that was waited for. -/
  | quit (snapshot : Snapshot)
  | ended (snapshot : Snapshot)
  | ending
  /-- A scene that is not provided here. -/
  | scene (name : String) (data : Option Json)
deriving Repr, BEq

inductive Failure where
  | load (error : LoadError)
  /-- Timelines restart each other, and nothing is ever asked. -/
  | endless (timeline : String)
  /-- A line that was read is no text. -/
  | garbled
  | clock
deriving Repr, BEq, DecidableEq

def Failure.message : Failure → String
  | .load e => e.message
  | .endless timeline => s!"timeline '{timeline}' keeps restarting without waiting for input"
  | .garbled => "stream did not contain valid UTF-8"
  | .clock => ClockOverflow.message

inductive Phase where
  /-- A line is awaited. -/
  | prompting
  /-- Time has to go by; so many characters are printed. -/
  | revealing (printed : Nat)
  | over (result : Except Failure Outcome)
deriving Repr

end Session

structure Session where
  registry : Registry
  config : Config
  options : Session.Options
  playback : Playback
  view : View := {}
  output : String := ""
  phase : Session.Phase := .prompting
  /-- What the players to come draw from when the configuration has no seed. -/
  streams : Nat → Random

namespace Session

def print (s : Session) (text : String) : Session := { s with output := s.output ++ text }

def printLines (s : Session) (lines : List String) : Session :=
  s.print (String.join (lines.map (· ++ "\n")))

def finish (s : Session) (result : Except Failure Outcome) : Session :=
  { s with phase := .over result }

/-- What was printed since the last time. -/
def takeOutput (s : Session) : String × Session := (s.output, { s with output := "" })

def controls : List String :=
  ["=== emaki Timeline Player ===", "", "Controls:", "  Enter: next",
    "  1-9:   select / toggle option", "  c:     confirm selection", "  q:     quit", ""]

/-- Fold the new commands into the view. -/
def look (s : Session) : Delta × Session :=
  let (commands, surface) := s.playback.surface.takeLog
  let (delta, view) := s.view.update commands s.playback.player.timelineKey
  (delta, { s with playback.surface := surface, view })

def flush (s : Session) : Session :=
  let (delta, s) := s.look
  s.print delta.text

def quotedList (items : List String) : String := Text.bracketed (items.map Text.quote)

def showState (s : Session) : Session :=
  let player := s.playback.player
  let stage := s.playback.surface.stage
  s.printLines ["[debug]",
    "timeline=" ++ player.timelineKey.getD "-" ++ s!" index={player.index}"
      ++ s!" progress={player.progress.shown}",
    "images=" ++ quotedList stage.imageNames,
    "sounds=" ++ quotedList stage.sounds.keys, ""]

def buttonLine (button : Button) (state : ButtonState) : String :=
  match button.role with
  | .choice => s!"{button.id + 1}. {button.label}"
  | .toggle =>
    s!"{button.id + 1}. [" ++ (if state = .selected then "x" else " ") ++ "] " ++ button.label
  | .confirm => s!"c. {button.label}"

def showButtons (s : Session) : Session :=
  s.printLines <|
    "--- Choice ---" :: s.playback.surface.stage.buttons.map (fun (b, state) => buttonLine b state)
      ++ [""]

def prompt (s : Session) : Session := { s.print "> " with phase := .prompting }

def endingLines : List String :=
  ["", "The role-play has ended.", "Thank you for playing.", "", "== THE END =="]

end Session

end VisualNovel
