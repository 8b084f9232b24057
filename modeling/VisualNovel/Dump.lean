import VisualNovel.Playback.Step
import VisualNovel.Stage.Format

namespace VisualNovel.Dump

open Json (Encode encode field)

inductive Stop where
  /-- A gate waits for a button. -/
  | gate
  | ended
  | navigate (navigation : Navigation)
deriving Repr, BEq

instance : Encode Stop :=
  ⟨fun
    | .gate => .object (field "reason" "gate")
    | .ended => .object (field "reason" "ended")
    | .navigate n => .object (field "reason" "navigate" ++ field "navigation" n)⟩

structure Report where
  timeline : String
  cursor : Snapshot
  stopped : Stop
  /-- How often the pointer went down. -/
  advances : Nat
  commands : List Command
deriving Repr, BEq

instance : Encode Report :=
  ⟨fun r => .object <|
    field "timeline" r.timeline ++ field "cursor" r.cursor ++ field "stopped" r.stopped
      ++ field "advances" r.advances ++ field "commands" r.commands⟩

/-- Why nothing happens without something else than a pointer down. -/
def stop? : Progress → Option Stop
  | .typing => none
  | .waitInput => none
  | .stalled => none
  | .waitChoice => some .gate
  | .ended => some .ended
  | .finished => some .ended
  | .navigate n => some (.navigate n)

/-- Put the pointer down at most so many times, and count how often. That it came to the end is also
told when the bound is used up, but the bound of `run` never is: twice the number of events are
enough for any timeline (`Halts.advanceAll`, `advances_reading_le`). -/
def advanceAll : Nat → Nat → Progress × Playback → Nat × Stop × Playback
  | bound, count, (progress, p) =>
    match stop? progress with
    | some stop => (count, stop, p)
    | none =>
      match bound with
      | 0 => (count, .ended, p)
      | bound + 1 => advanceAll bound (count + 1) p.advance

/-- Each event takes at most two pointer downs, and one more finds the end. -/
def run (registry : Registry) (config : Config) (start : String)
    (unseeded : Random := .ofSeed 0) : Except LoadError Report := do
  let timeline ← registry.get start
  let begun ← (Playback.ofConfig config (.ofCanvas config.canvas) unseeded).startKey registry start
  let (advances, stopped, p) := advanceAll (2 * timeline.length + 1) 0 begun
  return ⟨start, p.snapshot, stopped, advances, p.surface.log.toList⟩

end VisualNovel.Dump
