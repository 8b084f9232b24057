import VisualNovel.Playback.Basic

namespace VisualNovel.Playback

def apply (p : Playback) : Event → Playback
  | .clearDialog => (p.perform .clearActorName).perform .clearDialogText
  | .setBackground image =>
    let fade := Fade.ofEffect image.effect p.player.config.fadeDuration
    (p.note (.background image.key fade)).perform
      (.setBackground image.key (p.canvas.place image.x image.y) fade)
  | .clearBackground => p.perform .clearBackground
  | .setFrame image => p.perform (.setFrame image.key p.canvas.center)
  | .addForeground image =>
    (p.note (.foreground image.key)).perform
      (.addForeground image.key (p.canvas.place image.x image.y))
  | .clearForeground => p.perform .clearForeground
  | .hideWebLink => p.perform .hideWebLink
  | .playSound cue =>
    if p.surface.stage.isPlaying cue.key then p.note (.alreadyPlaying cue.key)
    else p.perform (.playSound cue.key cue.looping)
  | .clearSound key =>
    if p.surface.stage.isPlaying key then p.perform (.stopSound key) else p
  | _ => p

/-- A name is shown unless it is empty. -/
def actorCommand (line : DialogLine) : Command :=
  match line.actorName with
  | some name =>
    if name.isEmpty then .clearActorName
    else .setActorName name ⟨line.actorFillColor, line.actorFillAlpha⟩
  | none => .clearActorName

/-- Begin to show a line. -/
def showLine (p : Playback) (line : DialogLine) : Progress × Playback :=
  let style : TextStyle := ⟨line.textFillColor, line.textFillAlpha⟩
  let p := { p.perform (actorCommand line) with player.dialogStyle := style }
  let p := p.perform (.setDialogText "" style)
  let reveal : Reveal := { text := line.text, interval := p.player.config.typingInterval }
  if reveal.isComplete then (.waitInput, p)
  else (.typing, { p with player.reveal := some reveal })

/-- The buttons of an earlier gate may still be there, and numbers begin anew. -/
def openGate (p : Playback) (gate : Gate) : Progress × Playback :=
  let p := (p.perform .clearButtons).setAdvanceEnabled false
  let p := p.performAll ((gate.buttons p.player.config.layout p.canvas).map .addButton)
  let p := p.note (.gateOpened gate.buttonCount)
  (.waitChoice, { p with player.gate := some gate })

def linkView (link : WebLink) : WebLinkView := ⟨link.url, link.label, link.targetName⟩

/-- Carry out a blocking event. A gate without options is passed over. -/
def block (p : Playback) (event : Event) : Progress × Playback :=
  match event with
  | .dialog line => p.showLine line
  | .timelineTransition key => p.navigate (.restart key)
  | .sceneTransition jump => p.navigate (.scene jump.key jump.data)
  | .choice options =>
    if options.isEmpty then (.waitInput, p) else p.openGate (.single ⟨options⟩)
  | .multiChoice set =>
    if set.choices.isEmpty then (.waitInput, p)
    else
      let (gate, random) := Gate.Multi.forSet set p.player.random
      let p := { p with player.random := random }
      (p.note (.ordered gate.order)).openGate (.multi gate)
  | .showWebLink link => (.waitInput, p.perform (.showWebLink (linkView link)))
  | .unknown => (.stalled, p.note (.stalled (p.player.index - 1)))
  | event => (.waitInput, p.apply event)

def passing (p : Playback) (event : Event) : Playback :=
  let p := p.note (.dispatched p.player.index event.tag)
  { p with player.index := p.player.index + 1 }

def runThrough (p : Playback) : List Event → Progress × Playback
  | [] => (.ended, p.note (.reachedEnd p.player.index))
  | event :: rest =>
    let p := p.passing event
    match event.pacing with
    | .immediate => (p.apply event).runThrough rest
    | .blocking => p.block event

def run (p : Playback) : Progress × Playback :=
  match p.player.timeline with
  | none => (.ended, p)
  | some timeline => p.runThrough (timeline.drop p.player.index)

end VisualNovel.Playback
