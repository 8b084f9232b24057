import VisualNovel.Json.Encode

namespace VisualNovel.Lint

open Json (Encode field)

inductive Level where
  | error
  | warning
  | info
deriving Repr, BEq, DecidableEq

def Level.label : Level → String
  | .error => "error"
  | .warning => "warning"
  | .info => "info"

def Level.name : Level → String
  | .error => "Error"
  | .warning => "Warning"
  | .info => "Info"

inductive AssetKind where
  | image
  | audio
deriving Repr, BEq, DecidableEq

def AssetKind.label : AssetKind → String
  | .image => "image"
  | .audio => "audio"

inductive Finding where
  -- references
  | unknownTarget (tag key : String)
  | unlistedAsset (kind : AssetKind) (key : String)
  -- quality
  | noOptions (tag : String)
  | emptyChoiceKey
  | emptyDestination
  | minAboveMax (min max : Nat)
  | minAboveOptions (min options : Nat)
  | nothingCorrect
  | longText (length max : Nat)
  | unknownEvent
  -- flow
  | unreachableEvents (count : Nat) (tag : String) (exit : Nat)
  | unregisteredEntry
  | unreachableTimeline (start : String)
deriving Repr, BEq, DecidableEq

namespace Finding

def level : Finding → Level
  | .unknownTarget _ _ => .error
  | .minAboveMax _ _ => .error
  | .minAboveOptions _ _ => .error
  | .longText _ _ => .info
  | .unreachableTimeline _ => .info
  | _ => .warning

def category : Finding → String
  | .unknownTarget _ _ => "references"
  | .unlistedAsset _ _ => "references"
  | .unreachableEvents _ _ _ => "flow"
  | .unregisteredEntry => "flow"
  | .unreachableTimeline _ => "flow"
  | _ => "quality"

def message : Finding → String
  | .unknownTarget tag key => s!"{tag} targets unknown timeline '{key}'"
  | .unlistedAsset kind key => s!"{kind.label} key '{key}' is not in the preload list"
  | .noOptions tag => s!"{tag} has no options; no gate will open"
  | .emptyChoiceKey => "choice with an empty key re-enables the hit area instead of navigating"
  | .emptyDestination => "multi_choice has an empty destination key"
  | .minAboveMax min max => s!"minSelect {min} exceeds maxSelect {max}"
  | .minAboveOptions min options =>
    s!"minSelect {min} exceeds the {options} available options; confirm can never resolve"
  | .nothingCorrect => "no option is marked correct; only an empty selection is graded correct"
  | .longText length max => s!"Text length {length} exceeds recommended maximum of {max}"
  | .unknownEvent => "unknown event kind; playback stalls here until the next pointer down"
  | .unreachableEvents count tag exit =>
    s!"{count} event(s) after {tag} at index {exit} are unreachable"
  | .unregisteredEntry => "entry timeline is not registered"
  | .unreachableTimeline start => s!"timeline is not reachable from '{start}'"

end Finding

structure Issue where
  finding : Finding
  timeline : String
  index : Option Nat
deriving Repr, BEq, DecidableEq

namespace Issue

def level (i : Issue) : Level := i.finding.level

def place (i : Issue) : String :=
  match i.index with
  | some index => i.timeline ++ s!"#{index}"
  | none => i.timeline

def text (i : Issue) : String :=
  i.level.label ++ "[" ++ i.finding.category ++ "] " ++ i.place ++ ": " ++ i.finding.message

instance : Encode Issue :=
  ⟨fun i => .object <|
    field "level" i.level.name ++ field "message" i.finding.message
      ++ field "timeline" i.timeline ++ field "index" i.index
      ++ field "category" i.finding.category⟩

end Issue

structure Report where
  issues : List Issue
deriving Repr, BEq, DecidableEq

namespace Report

def count (r : Report) (level : Level) : Nat := r.issues.countP (·.level == level)

def hasErrors (r : Report) : Bool := 0 < r.count .error

def isClean (r : Report) : Bool := r.issues.isEmpty

instance : Encode Report :=
  ⟨fun r => .object <|
    field "issues" r.issues ++ field "error_count" (r.count .error)
      ++ field "warning_count" (r.count .warning) ++ field "info_count" (r.count .info)⟩

end Report

end VisualNovel.Lint
