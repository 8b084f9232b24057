import VisualNovel.Powers

/-!
Spans of time, counted in whole nanoseconds. A span holds fewer than `2 ^ 64` seconds.
-/

namespace VisualNovel

def nanosPerSecond : Nat := 1000000000

structure Duration where
  nanos : Nat
  inRange : nanos < twoTo 64 * nanosPerSecond
deriving Repr, BEq, DecidableEq

namespace Duration

def zero : Duration := ⟨0, by decide⟩

instance : Inhabited Duration := ⟨zero⟩

def longest : Duration := ⟨twoTo 64 * nanosPerSecond - 1, by decide⟩

def ofNanos? (n : Nat) : Option Duration :=
  if h : n < twoTo 64 * nanosPerSecond then some ⟨n, h⟩ else none

def saturating (n : Nat) : Duration := (ofNanos? n).getD longest

def ofSeconds? (seconds nanos : Nat) : Option Duration :=
  ofNanos? (seconds * nanosPerSecond + nanos)

def ofMillis (n : Nat) : Duration := saturating (n * 1000000)

def add? (a b : Duration) : Option Duration := ofNanos? (a.nanos + b.nanos)

def times (d : Duration) (n : Nat) : Duration := saturating (d.nanos * n)

def seconds (d : Duration) : Nat := d.nanos / nanosPerSecond

def subsecond (d : Duration) : Nat := d.nanos % nanosPerSecond

def millis (d : Duration) : Nat := d.nanos / 1000000

theorem nanos_saturating (n : Nat) : (saturating n).nanos = min n longest.nanos := by
  unfold saturating ofNanos?
  split <;> simp_all [longest] <;> omega

theorem zero_add? (d : Duration) : zero.add? d = some d := by
  simp [add?, ofNanos?, zero, d.inRange]

/-- The places after the point for `rest` parts of a unit of `unit` parts, without closing zeros. -/
def fraction (rest unit : Nat) : List Char :=
  let digits := Nat.toDigits 10 rest
  let places := (Nat.toDigits 10 unit).length - 1
  let padded := List.replicate (places - digits.length) '0' ++ digits
  match (padded.reverse.dropWhile (· == '0')).reverse with
  | [] => []
  | shown => '.' :: shown

/-- A count of `unit`s with its fraction and the name of the unit. -/
def inUnit (nanos unit : Nat) (name : String) : String :=
  let whole := Nat.toDigits 10 (nanos / unit)
  String.ofList (whole ++ if unit = 1 then [] else fraction (nanos % unit) unit) ++ name

/-- The span in the largest unit that it fills. -/
def text (d : Duration) : String :=
  if nanosPerSecond ≤ d.nanos then inUnit d.nanos nanosPerSecond "s"
  else if 1000000 ≤ d.nanos then inUnit d.nanos 1000000 "ms"
  else if 1000 ≤ d.nanos then inUnit d.nanos 1000 "µs"
  else inUnit d.nanos 1 "ns"

end Duration

end VisualNovel
