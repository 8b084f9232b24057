import VisualNovel.Decimal.Binary

/-!
The decimal with the fewest digits that reads back as a given binary number, and of those the one
nearest to it. Two of them can be equally near: 1125899906842624.2 and 1125899906842624.3 both read
back as 1125899906842624.25 in double precision. All comparisons are made exactly, between natural
numbers.
-/

namespace VisualNovel.Decimal

/-- The decimal `digits * 10 ^ exponent`. -/
structure Scientific where
  digits : Nat
  exponent : Int
deriving Repr, BEq, DecidableEq

/-- Which of two equally near decimals stands for a number. -/
inductive TieRule where
  | evenDigit
  | above
deriving Repr, BEq, DecidableEq

namespace Binary

/-- The value as a fraction, its numerator in quarters of the last binary place. -/
def numerator (b : Binary) : Nat := 4 * b.significand * twoTo b.exponent.toNat

def denominator (b : Binary) : Nat := 4 * twoTo (-b.exponent).toNat

/-- The end of the interval of reals that round to the value, in the unit of `numerator`. -/
def upperEnd (b : Binary) : Nat := (4 * b.significand + 2) * twoTo b.exponent.toNat

def lowerEnd (b : Binary) : Nat :=
  (4 * b.significand - if b.narrowBelow then 1 else 2) * twoTo b.exponent.toNat

/-- Whether a decimal rounds to the value; the ends of the interval do so for an even one. -/
def roundsTo (b : Binary) (d : Scientific) : Bool :=
  let scaled := d.digits * tenTo d.exponent.toNat * b.denominator
  let grid := tenTo (-d.exponent).toNat
  if b.significand % 2 = 0 then
    b.lowerEnd * grid ≤ scaled && scaled ≤ b.upperEnd * grid
  else
    b.lowerEnd * grid < scaled && scaled < b.upperEnd * grid

/-- The exponent of the leading decimal digit. -/
def leadingPlace (b : Binary) : Int :=
  if b.denominator ≤ b.numerator then
    ((Nat.toDigits 10 (b.numerator / b.denominator)).length : Int) - 1
  else
    let length := (Nat.toDigits 10 (b.denominator / b.numerator)).length
    if b.denominator ≤ b.numerator * tenTo (length - 1) then -((length : Int) - 1) else -length

/-- The two decimals of `count` digits around the value. -/
def neighbours (b : Binary) (count : Nat) : Scientific × Scientific :=
  let exponent := b.leadingPlace - (count - 1 : Nat)
  let below := b.numerator * tenTo (-exponent).toNat / (b.denominator * tenTo exponent.toNat)
  (⟨below, exponent⟩, ⟨below + 1, exponent⟩)

/-- How the value compares to the middle between two neighbours. -/
def compareToMiddle (b : Binary) (below above : Scientific) : Ordering :=
  compare (2 * b.numerator * tenTo (-below.exponent).toNat)
    ((below.digits + above.digits) * tenTo below.exponent.toNat * b.denominator)

/-- The nearer of two neighbours. -/
def nearer (b : Binary) (tie : TieRule) (below above : Scientific) : Scientific :=
  match b.compareToMiddle below above with
  | .lt => below
  | .gt => above
  | .eq =>
    match tie with
    | .evenDigit => if below.digits % 2 = 0 then below else above
    | .above => above

/-- The decimal of `count` digits that rounds to the value, if there is one. -/
def withDigits (b : Binary) (tie : TieRule) (count : Nat) : Option Scientific :=
  let (below, above) := b.neighbours count
  match b.roundsTo below, b.roundsTo above with
  | true, true => some (b.nearer tie below above)
  | true, false => some below
  | false, true => some above
  | false, false => none

/-- Seventeen digits tell any two numbers of the formats apart. -/
def shortest (b : Binary) (tie : TieRule) : Scientific :=
  ((List.range' 1 17).findSome? (b.withDigits tie)).getD (b.neighbours 17).1

/-- The number half-way between two decimals of seventeen digits, under either rule. -/
example :
    (⟨4503599627370497, -2, false⟩ : Binary).shortest .evenDigit = ⟨11258999068426242, -1⟩ ∧
      (⟨4503599627370497, -2, false⟩ : Binary).shortest .above = ⟨11258999068426243, -1⟩ := by
  decide +kernel

end Binary

end VisualNovel.Decimal
