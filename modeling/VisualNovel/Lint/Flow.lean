import VisualNovel.Lint.References
import VisualNovel.Navigation

namespace VisualNovel

namespace Event

/-- Whether playback never goes on behind an event. -/
def endsActivation : Event → Bool
  | .timelineTransition _ => true
  | .sceneTransition _ => true
  | .choice options => !options.isEmpty && options.all (!·.key.isEmpty)
  | .multiChoice set =>
    !set.choices.isEmpty && !set.correctKey.isEmpty && !set.incorrectKey.isEmpty
  | _ => false

/-- The timelines that may follow an event, also by way of the data for a scene. -/
def successors (event : Event) : List String :=
  event.destinations.filter (!·.isEmpty) ++
    match event with
    | .sceneTransition jump => (Route.namedTimeline? jump.data).toList
    | _ => []

end Event

namespace Lint

/-- The index of the first event that cannot be played, and the finding about it. -/
def unreachableEvents? (timeline : Timeline) : Option (Nat × Finding) := do
  let exit ← timeline.findIdx? Event.endsActivation
  let event ← timeline[exit]?
  let first := exit + 1
  if first < timeline.length then
    some (first, .unreachableEvents (timeline.length - first) event.tag exit)
  else none

def checkEventFlow (r : Registry) : List Issue :=
  r.timelines.entries.filterMap fun (name, timeline) =>
    (unreachableEvents? timeline).map fun (first, finding) => ⟨finding, name, some first⟩

/-- The timelines but the one of the given name. -/
def others (key : String) (left : List (String × Timeline)) : List (String × Timeline) :=
  left.filter (·.1 != key)

theorem length_others_lt {key : String} {left : List (String × Timeline)}
    (h : (left.lookup key).isSome = true) : (others key left).length < left.length := by
  obtain ⟨e, he, hkey⟩ := List.mem_map.1 (Dict.lookup_isSome_iff.1 h)
  exact List.length_filter_lt_length_iff_exists.2 ⟨e, he, by simp [hkey]⟩

/-- Take the timelines that can be reached from the pending keys out of those that are left. A key is
marked when it is taken, and not already when it is found, so that it may be pending twice; the
second time its timeline is no longer left. -/
def unreached (pending : List String) (left : List (String × Timeline)) :
    List (String × Timeline) :=
  match pending with
  | [] => left
  | key :: pending =>
    match _ : left.lookup key with
    | none => unreached pending left
    | some timeline =>
      unreached (pending ++ timeline.flatMap Event.successors) (others key left)
termination_by (left.length, pending.length)
decreasing_by
  · exact .right _ (by simp)
  · exact .left _ _ (length_others_lt (by simp [*]))

def checkTimelineFlow (r : Registry) (start : String) : List Issue :=
  if r.timelines.isEmpty then []
  else if !r.contains start then [⟨.unregisteredEntry, start, none⟩]
  else (unreached [start] r.timelines.entries).map fun (name, _) =>
    ⟨.unreachableTimeline start, name, none⟩

end Lint

end VisualNovel
