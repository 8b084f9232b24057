import VisualNovel.Lint.Issue
import VisualNovel.Registry

namespace VisualNovel

def Event.destinations : Event → List String
  | .timelineTransition key => [key]
  | .choice options => options.map Choice.key
  | .multiChoice set => [set.correctKey, set.incorrectKey]
  | _ => []

namespace Lint

/-- Whatever a check finds in events, with its place. -/
def inEvents (r : Registry) (check : Event → List Finding) : List Issue :=
  r.timelines.entries.flatMap fun (name, timeline) =>
    timeline.zipIdx.flatMap fun (event, index) =>
      (check event).map (⟨·, name, some index⟩)

/-- An empty key names no timeline on purpose. -/
def checkTargets (r : Registry) (event : Event) : List Finding :=
  (event.destinations.filter fun key => key != "" && !r.contains key).map
    (.unknownTarget event.tag)

def asset? : Event → Option (AssetKind × String)
  | .setBackground image => some (.image, image.key)
  | .setFrame image => some (.image, image.key)
  | .addForeground image => some (.image, image.key)
  | .playSound cue => some (.audio, cue.key)
  | .clearSound key => some (.audio, key)
  | _ => none

def assets (r : Registry) : AssetKind → Dict String
  | .image => r.images
  | .audio => r.audio

/-- A registry that lists no files at all finds them elsewhere. -/
def checkAsset (r : Registry) (event : Event) : List Finding :=
  match asset? event with
  | none => []
  | some (kind, key) =>
    if !(assets r kind).isEmpty && !(assets r kind).contains key then [.unlistedAsset kind key]
    else []

end Lint

end VisualNovel
