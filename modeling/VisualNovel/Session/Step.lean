import VisualNovel.Session.Basic

namespace VisualNovel.Session

/-- A session, and the timeline that has to be activated next. -/
abbrev Next := Session × Option String

def route (s : Session) (navigation : Navigation) : Next :=
  match Route.ofNavigation navigation with
  | .restart timeline => (s, some timeline)
  | .ending => ((s.printLines endingLines).finish (.ok .ending), none)
  | .exit name data => ((s.printLines [s!"[Scene: {name}]"]).finish (.ok (.scene name data)), none)

/-- Show what came of a step, and wait for the next line unless it was the last step. -/
def present (s : Session) (progress : Progress) : Next :=
  let s := s.flush
  let s := if s.options.debug then s.showState else s
  match progress with
  | .navigate navigation => s.route navigation
  | .ended | .finished =>
    ((s.printLines ["== END OF TIMELINE =="]).finish (.ok (.ended s.playback.snapshot)), none)
  | .waitChoice => (s.showButtons.prompt, none)
  | .stalled => ((s.printLines ["(unsupported event, press Enter to skip)"]).prompt, none)
  | .typing | .waitInput => (s.prompt, none)

/-- The time that the rest of a line takes; a count of characters is cut to a word of 32 bits. -/
def remainingTime (p : Playback) : Duration :=
  match p.player.reveal with
  | none => .zero
  | some reveal =>
    p.player.config.typingInterval.times (min (reveal.charCount - reveal.shown) (twoTo 32 - 1))

/-- Go on after a step; a line is shown first. -/
def proceed (s : Session) (progress : Progress) : Next :=
  match progress with
  | .typing =>
    if s.options.animate then ({ s.flush with phase := .revealing 0 }, none)
    else
      match s.playback.tick (remainingTime s.playback) with
      | .ok (progress, playback) => { s with playback }.present progress
      | .error _ => (s.finish (.error .clock), none)
  | progress => s.present progress

/-- A fresh player on the stage as the last one left it, with nothing but its sounds. -/
def renew (s : Session) : Session :=
  { s with
    playback := { Playback.ofConfig s.config s.playback.surface.reset (s.streams 0) with
      records := s.playback.records }
    view := s.view.reset
    streams := fun n => s.streams (n + 1) }

def activate (s : Session) (key : String) (index : Nat) : Next :=
  let s := s.renew
  match s.playback.startNamed s.registry key index with
  | .ok (progress, playback) => { s with playback }.proceed progress
  | .error e => (s.finish (.error (.load e)), none)

/-- The host records that it goes on with a timeline. -/
def noteRestart (s : Session) (key : String) : Session :=
  { s with playback := s.playback.note (.restarting key) }

/-- Activate timelines as long as they lead to others, but no more than so many. -/
def follow : Nat → Next → Session
  | _, (s, none) => s
  | 0, (s, some key) => (s.noteRestart key).finish (.error (.endless key))
  | patience + 1, (s, some key) => follow patience ((s.noteRestart key).activate key 0)

/-- Restarts in a row without anything being read. -/
def maxIdleRestarts : Nat := 64

/-- Begin a session. Nothing is printed when there is no such timeline. -/
def start (registry : Registry) (config : Config) (options : Options)
    (streams : Nat → Random := fun _ => .ofSeed 0) : Session :=
  let s : Session :=
    { registry, config, options, playback := .ofConfig config (.ofCanvas config.canvas), streams }
  match registry.get options.start with
  | .error e => s.finish (.error (.load e))
  | .ok _ =>
    follow maxIdleRestarts
      ((s.printLines controls).activate options.start (options.index.getD 0))

/-- Press a button and go on. A press that is refused leaves the stage as it was. -/
def pressButton (s : Session) (id : Nat) : Next :=
  let (progress, playback) := s.playback.press id
  let s := { s with playback }
  match progress with
  | .waitChoice =>
    if s.playback.surface.log.isEmpty then (s.printLines ["(not accepted)"]).proceed progress
    else s.proceed progress
  | progress => s.proceed progress

def quit (s : Session) : Session :=
  (s.printLines ["Goodbye!"]).finish (.ok (.quit s.playback.resumePoint))

def obey (s : Session) : Reply → Next
  | .quit => (s.quit, none)
  | .advance =>
    let (progress, playback) := s.playback.advance
    { s with playback }.proceed progress
  | .press id => s.pressButton id
  | .confirm =>
    match s.playback.player.gate with
    | some (.multi gate) => s.pressButton gate.confirmButton
    | _ => (s.printLines ["Nothing to confirm."]).proceed s.playback.player.progress
  | .unknown text =>
    (s.printLines [s!"Invalid input '{text}'. Press Enter, 1-9, 'c' or 'q'."]).proceed
      s.playback.player.progress

/-- Take a line, if one is awaited. The timeline that was played asked for it, so that its restart
is no idle one. -/
def feed (s : Session) (line : Line) : Session :=
  match s.phase with
  | .prompting =>
    match line with
    | .text content => follow (maxIdleRestarts + 1) (s.obey (.ofLine content))
    | .garbled => s.finish (.error .garbled)
  | _ => s

/-- There are no more lines: nobody is there any more. -/
def endInput (s : Session) : Session :=
  match s.phase with
  | .prompting => s.quit
  | _ => s

/-- Let time go by while a line is shown, and print the characters that are new. What is printed
when the line is complete is not told again. -/
def wake (s : Session) (time : Duration) : Session :=
  match s.phase with
  | .revealing printed =>
    match s.playback.tick time with
    | .error _ => s.finish (.error .clock)
    | .ok (progress, playback) =>
      let s := { s with playback }
      let fresh := playback.surface.stage.dialogText.toList.drop printed
      let s := s.print (String.ofList fresh)
      match progress with
      | .typing => { s with phase := .revealing (printed + fresh.length) }
      | progress => follow (maxIdleRestarts + 1) (((s.print "\n\n").look.2).present progress)
  | _ => s

/-- The time between two looks at a line that is shown. -/
def wakeInterval (s : Session) : Duration :=
  let interval := s.config.typingInterval
  if interval.nanos < 1000000 then .ofMillis 1 else interval

/-- Let time go by, at most so many intervals, until a line is complete. -/
def watchFor : Nat → Session → Session
  | 0, s => s
  | count + 1, s =>
    match s.phase with
    | .revealing _ => watchFor count (s.wake s.wakeInterval)
    | _ => s

/-- Each interval brings at least one character. -/
def watch (s : Session) : Session :=
  watchFor (s.playback.player.reveal.elim 0 Reveal.charCount) s

/-- Take all lines that are left. Time passes only while lines are shown. -/
def play (s : Session) (lines : List Line) : Session :=
  (lines.foldl (fun s line => (s.feed line).watch) s.watch).endInput

def run (registry : Registry) (config : Config) (options : Options) (lines : List Line)
    (streams : Nat → Random := fun _ => .ofSeed 0) : Session :=
  (start registry config options streams).play lines

def result? (s : Session) : Option (Except Failure Outcome) :=
  match s.phase with
  | .over result => some result
  | _ => none

end VisualNovel.Session
