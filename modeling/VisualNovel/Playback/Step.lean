import VisualNovel.Playback.Dispatch

namespace VisualNovel.Playback

def startAt (p : Playback) (timeline : Timeline) (index : Nat) : Progress × Playback :=
  let p := { p with
    player.timeline := some timeline
    player.index := index
    player.reveal := none
    player.gate := none
    player.navigation := none }
  let p := p.setAdvanceEnabled true
  let p := p.note (.started p.player.timelineKey index timeline.length)
  let (progress, p) := p.run
  p.settle progress

def start (p : Playback) (timeline : Timeline) : Progress × Playback := p.startAt timeline 0

def startNamed (p : Playback) (registry : Registry) (key : String) (index : Nat) :
    Except LoadError (Progress × Playback) := do
  let timeline ← registry.get key
  return { p with player.timelineKey := some key }.startAt timeline index

def startKey (p : Playback) (registry : Registry) (key : String) :
    Except LoadError (Progress × Playback) :=
  p.startNamed registry key 0

def resume (p : Playback) (registry : Registry) (snapshot : Snapshot) :
    Except LoadError (Progress × Playback) :=
  match snapshot.timelineKey with
  | none => .error .unnamedSnapshot
  | some key => p.startNamed registry key snapshot.index

/-- A pointer down. It completes a line that is still being shown, and only the next one leads
on. -/
def advance (p : Playback) : Progress × Playback :=
  if p.player.navigation.isSome then (.finished, p)
  else if !p.player.advanceEnabled then (p.player.progress, p.note .advanceIgnored)
  else
    match p.player.reveal with
    | some reveal =>
      let p := { p with player.reveal := none }
      let p := p.perform (.setDialogText reveal.text p.player.dialogStyle)
      (p.note .lineCompleted).settle .waitInput
    | none =>
      let (progress, p) := p.run
      p.settle progress

def respond (p : Playback) (id : Nat) : Gate.Response → Progress × Playback
  | .refused reason => (p.player.progress, p.note (.pressRefused id reason))
  | .toggled option state => (p.player.progress, p.note (.toggled option state))
  | .resolved destination verdict =>
    let p := verdict.elim p (p.note <| .graded ·)
    let (progress, p) := p.navigate (.restart destination)
    p.settle progress
  | .fallback _ => ((p.note .fellBack).setAdvanceEnabled true).settle .waitInput

/-- Press a button of the gate, which may be one that led nowhere before. -/
def press (p : Playback) (id : Nat) : Progress × Playback :=
  if p.player.navigation.isSome then (.finished, p)
  else
    match p.player.gate with
    | none => (p.player.progress, p)
    | some gate =>
      let (response, gate) := gate.press id
      let p := { p with player.gate := some gate }
      (p.performAll (response.commands id)).respond id response

/-- Let time go by for the line that is being shown. A complete line still waits for a pointer
down. -/
def tick (p : Playback) (time : Duration) : Except ClockOverflow (Progress × Playback) :=
  if p.player.navigation.isSome then .ok (.finished, p)
  else
    match p.player.reveal with
    | none => .ok (p.player.progress, p)
    | some reveal => do
      let (more, reveal) ← reveal.tick time
      let p := { p with player.reveal := some reveal }
      let p := if more then p.perform (.setDialogText reveal.visible p.player.dialogStyle) else p
      if reveal.isComplete then
        return { p with player.reveal := none }.settle .waitInput
      else
        return (.typing, p)

end VisualNovel.Playback
