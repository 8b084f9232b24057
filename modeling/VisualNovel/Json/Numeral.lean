import VisualNovel.Json.Error
import VisualNovel.Powers

/-!
The number that a numeral stands for. Whole numerals that fit 64 bits are integers; all others are
double-precision numbers, made from as many leading digits as fit 64 bits and one multiplication or
division by a power of ten.
-/

namespace VisualNovel.Json

/-- A numeral taken apart; `stop` is the offset of its end and `exponentStart` that of the first
digit of its exponent. -/
structure Numeral where
  negative : Bool
  whole : List Nat
  fraction : Option (List Nat)
  exponent : Option (Bool × List Nat)
  exponentStart : Nat
  stop : Nat
deriving Repr, BEq, DecidableEq

namespace Numeral

/-- Digits join the significand while it fits 64 bits; the rest of a whole part counts as places. -/
def absorbWhole (significand : Nat) : List Nat → Nat × Nat
  | [] => (significand, 0)
  | d :: rest =>
    if significand * 10 + d < twoTo 64 then absorbWhole (significand * 10 + d) rest
    else (significand, rest.length + 1)

/-- The rest of a fraction is dropped; the second part counts the digits that were taken. -/
def absorbFraction (significand : Nat) : List Nat → Nat × Nat
  | [] => (significand, 0)
  | d :: rest =>
    if significand * 10 + d < twoTo 64 then
      let (s, taken) := absorbFraction (significand * 10 + d) rest
      (s, taken + 1)
    else (significand, 0)

/-- The greatest size of an exponent that is read as such. -/
def greatestExponent : Nat := twoTo 31 - 1

/-- The size of an exponent, or the number of its digits up to the one that makes it too great. -/
def exponentSize (size read : Nat) : List Nat → Except Nat Nat
  | [] => .ok size
  | d :: rest =>
    if size * 10 + d ≤ greatestExponent then exponentSize (size * 10 + d) (read + 1) rest
    else .error (read + 1)

def powerOfTen (n : Nat) : Float := Float.ofScientific 1 false n

/-- Divide by ten to the given power, in steps within the range of the format. -/
def scaleDown : Nat → Float → Nat → Float
  | 0, x, _ => x
  | steps + 1, x, places =>
    if places ≤ 308 then x / powerOfTen places
    else if x == 0 then x
    else scaleDown steps (x / powerOfTen 308) (places - 308)

/-- A significand times a power of ten; `none` beyond the greatest number of the format. -/
def scale? (significand : Nat) (exponent : Int) : Option Float :=
  let x := Float.ofNat significand
  if exponent < 0 then
    let places := exponent.natAbs
    some (scaleDown (places / 308 + 1) x places)
  else if exponent ≤ 308 then
    let scaled := x * powerOfTen exponent.toNat
    if scaled.isInf then none else some scaled
  else if x == 0 then some x
  else none

def signed (n : Numeral) (x : Float) : Number := .double (if n.negative then -x else x)

def value (n : Numeral) : Except Error Number :=
  let (significand, places) := absorbWhole 0 n.whole
  let scaled (significand : Nat) (exponent : Int) : Except Error Number :=
    match scale? significand exponent with
    | some x => .ok (n.signed x)
    | none => .error (.located .numberOutOfRange n.stop)
  let withExponent (significand : Nat) (start : Int) : Except Error Number :=
    match n.exponent with
    | none => scaled significand start
    | some (negative, digits) =>
      match exponentSize 0 0 digits with
      | .ok size => scaled significand (if negative then start - size else start + size)
      | .error read =>
        if significand ≠ 0 && !negative then
          .error (.located .numberOutOfRange (n.exponentStart + read))
        else .ok (n.signed 0)
  match n.fraction with
  | some digits =>
    let (significand, taken) := absorbFraction significand digits
    withExponent significand ((places : Int) - taken)
  | none =>
    if n.exponent.isNone && places = 0 then
      if !n.negative then .ok (.integer significand)
      else if significand = 0 || twoTo 63 < significand then .ok (n.signed (Float.ofNat significand))
      else .ok (.integer (-significand))
    else withExponent significand places

end Numeral

end VisualNovel.Json
