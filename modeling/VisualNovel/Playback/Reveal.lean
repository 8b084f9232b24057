import VisualNovel.Duration
import VisualNovel.Powers

namespace VisualNovel

/-- More time went by than a clock can hold. -/
structure ClockOverflow where
deriving Repr, DecidableEq

def ClockOverflow.message : String := "overflow when adding durations"

structure Reveal where
  text : String
  /-- The time that each character takes. -/
  interval : Duration
  elapsed : Duration := .zero
  /-- The number of characters that are shown. -/
  shown : Nat := 0
deriving Repr, BEq, DecidableEq

namespace Reveal

def charCount (r : Reveal) : Nat := r.text.length

def visible (r : Reveal) : String := String.ofList (r.text.toList.take r.shown)

def isComplete (r : Reveal) : Bool := r.charCount ≤ r.shown

/-- Counts of characters are kept in words of so many values. -/
def countBound : Nat := twoTo 64

def due (r : Reveal) (elapsed : Duration) : Nat :=
  if r.interval.nanos = 0 then r.charCount
  else min (elapsed.nanos / r.interval.nanos % countBound) r.charCount

/-- Let time go by, and tell whether more of the text is shown. The clock of a complete line stands
still. -/
def tick (r : Reveal) (time : Duration) : Except ClockOverflow (Bool × Reveal) :=
  if r.isComplete then .ok (false, r)
  else
    match r.elapsed.add? time with
    | none => .error {}
    | some elapsed =>
      let due := r.due elapsed
      if r.shown < due then .ok (true, { r with elapsed, shown := due })
      else .ok (false, { r with elapsed })

end Reveal

end VisualNovel
