import VisualNovel.Log.Entry
import VisualNovel.Playback.Progress
import VisualNovel.Playback.Reveal
import VisualNovel.Registry
import VisualNovel.Snapshot
import VisualNovel.Stage.Basic

namespace VisualNovel

/-- Where a timeline is played, and what it waits for. -/
structure Player where
  config : Config
  timeline : Option Timeline := none
  timelineKey : Option String := none
  /-- The number of the event that comes next. -/
  index : Nat := 0
  /-- The line that is being shown. -/
  reveal : Option Reveal := none
  dialogStyle : TextStyle := {}
  /-- The last gate, also after it led nowhere. -/
  gate : Option Gate := none
  advanceEnabled : Bool := true
  navigation : Option Navigation := none
  progress : Progress := .ended
  random : Random
deriving Repr

structure Playback where
  player : Player
  surface : Surface
  records : Array Log.Entry := #[]
deriving Repr

namespace Playback

/-- A player that has not been started. Without a seed it draws from the stream that it is given. -/
def ofConfig (config : Config) (surface : Surface) (unseeded : Random := .ofSeed 0) : Playback where
  player := { config, random := config.seed.elim unseeded .ofSeed }
  surface

def canvas (p : Playback) : CanvasSize := p.surface.stage.canvas

/-- Make a record if the configuration asks for it. -/
def note (p : Playback) (entry : Log.Entry) : Playback :=
  if p.player.config.log.keeps entry then { p with records := p.records.push entry } else p

def perform (p : Playback) (command : Command) : Playback :=
  { p with surface := p.surface.perform command }

def performAll (p : Playback) (commands : List Command) : Playback :=
  { p with surface := p.surface.performAll commands }

/-- Take pointer downs or leave them alone, on the surface too. -/
def setAdvanceEnabled (p : Playback) (enabled : Bool) : Playback :=
  { p with player.advanceEnabled := enabled }.perform (.setAdvanceEnabled enabled)

/-- Keep what is waited for. -/
def settle (p : Playback) (progress : Progress) : Progress × Playback :=
  (progress, { p with player.progress := progress })

def navigate (p : Playback) (navigation : Navigation) : Progress × Playback :=
  let p := p.note (.navigated navigation)
  (.navigate navigation, { p with player.navigation := some navigation })

def snapshot (p : Playback) : Snapshot := ⟨p.player.timelineKey, p.player.index⟩

/-- The event that is waited for comes right before the cursor. -/
def isWaiting : Progress → Bool
  | .typing => true
  | .waitInput => true
  | .waitChoice => true
  | .stalled => true
  | _ => false

/-- The place from which the event that is waited for is played again. -/
def resumePoint (p : Playback) : Snapshot :=
  ⟨p.player.timelineKey, if isWaiting p.player.progress then p.player.index - 1 else p.player.index⟩

end Playback

end VisualNovel
