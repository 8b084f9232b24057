import VisualNovel.Gate.Basic
import VisualNovel.Log.Filter
import VisualNovel.Navigation

namespace VisualNovel.Log

inductive Entry where
  | started (timeline : Option String) (index events : Nat)
  | reachedEnd (index : Nat)
  | dispatched (index : Nat) (tag : String)
  | advanceIgnored
  | lineCompleted
  | navigated (navigation : Navigation)
  | stalled (index : Nat)
  | pressRefused (button : Nat) (reason : Gate.Refusal)
  | toggled (option : Nat) (state : ButtonState)
  | graded (verdict : Gate.Verdict)
  | fellBack
  | ordered (order : List Nat)
  | gateOpened (buttons : Nat)
  | background (key : String) (fade : Fade)
  | foreground (key : String)
  | alreadyPlaying (key : String)
  /-- The host starts another timeline. -/
  | restarting (timeline : String)
deriving Repr, BEq

namespace Entry

/-- What the host records has no category and is always kept. -/
def category : Entry → Option Category
  | .started _ _ _ => some .engine
  | .reachedEnd _ => some .engine
  | .dispatched _ _ => some .engine
  | .advanceIgnored => some .flow
  | .lineCompleted => some .flow
  | .navigated _ => some .flow
  | .stalled _ => some .flow
  | .pressRefused _ _ => some .choice
  | .toggled _ _ => some .choice
  | .graded _ => some .choice
  | .fellBack => some .choice
  | .ordered _ => some .choice
  | .gateOpened _ => some .choice
  | .background _ _ => some .layers
  | .foreground _ => some .layers
  | .alreadyPlaying _ => some .audio
  | .restarting _ => none

def level : Entry → Level
  | .dispatched _ _ => .trace
  | .advanceIgnored => .trace
  | .lineCompleted => .debug
  | .pressRefused _ _ => .debug
  | .toggled _ _ => .debug
  | .ordered _ => .debug
  | .gateOpened _ => .debug
  | .background _ _ => .debug
  | .foreground _ => .debug
  | .alreadyPlaying _ => .debug
  | .stalled _ => .warn
  | .fellBack => .warn
  | .started _ _ _ => .info
  | .reachedEnd _ => .info
  | .navigated _ => .info
  | .graded _ => .info
  | .restarting _ => .info

def indices (l : List Nat) : String := Text.bracketed (l.map toString)

def message : Entry → String
  | .started timeline index events =>
    "[Start] timeline=" ++ timeline.getD "<anonymous>" ++ s!" index={index} events={events}"
  | .reachedEnd index => s!"[Engine] reached end of timeline at index={index}"
  | .dispatched index tag => s!"[Engine] index={index} event={tag}"
  | .advanceIgnored => "[Advance] hit area disabled, ignoring"
  | .lineCompleted => "[Advance] typing cancelled, full line shown"
  | .navigated n => "[Navigate] " ++ n.shown
  | .stalled index => s!"[Engine] unknown event at index={index}, stalling"
  | .pressRefused button reason => s!"[Gate] press ButtonId({button}) -> {reason.name}"
  | .toggled option state => s!"[Gate] option {option} -> {state.name}"
  | .graded v =>
    s!"[Gate] graded correct={v.correct} score=" ++ Decimal.plain.double v.score
      ++ s!" contraindicated={v.contraindicated} selected=" ++ indices v.selected
  | .fellBack => "[Gate] empty destination key, re-enabling hit area"
  | .ordered order => "[Gate] multi-choice display order " ++ indices order
  | .gateOpened buttons => s!"[Gate] opened with {buttons} buttons"
  | .background key fade => s!"[Background] {key} fade=" ++ fade.shown
  | .foreground key => s!"[Foreground] add {key}"
  | .alreadyPlaying key => s!"[Sound] {key} already playing"
  | .restarting timeline => s!"restarting with timeline '{timeline}'"

def target (e : Entry) : String := e.category.elim "emaki::host" Category.target

def text (e : Entry) : String := e.level.name ++ " " ++ e.target ++ " " ++ e.message

end Entry

def Filter.keeps (f : Filter) (e : Entry) : Bool := e.category.all f.allows

end VisualNovel.Log
