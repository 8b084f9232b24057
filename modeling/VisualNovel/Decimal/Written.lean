import VisualNovel.Decimal.Shortest

namespace VisualNovel.Decimal

structure Style where
  /-- The leading places that are written without an exponent; no bound means all of them. -/
  leastPositional : Option Int
  greatestPositional : Option Int
  /-- Whole numbers end in `.0`. -/
  keepsFraction : Bool
  tie : TieRule

def digitChars (n : Nat) : List Char := Nat.toDigits 10 n

/-- Digits without the zeros at their end. -/
def significant (cs : List Char) : List Char :=
  (cs.reverse.dropWhile (· == '0')).reverse

namespace Style

def positional (s : Style) (digits : List Char) (place : Int) : List Char :=
  if place < 0 then
    '0' :: '.' :: (List.replicate ((-place).toNat - 1) '0' ++ digits)
  else
    let whole := place.toNat + 1
    let padded := digits ++ List.replicate (whole - digits.length) '0'
    match padded.drop whole with
    | [] => padded ++ (if s.keepsFraction then ['.', '0'] else [])
    | fraction => padded.take whole ++ '.' :: fraction

def withExponent (digits : List Char) (place : Int) : List Char :=
  let mantissa :=
    match digits with
    | [] => []
    | [d] => [d]
    | d :: rest => d :: '.' :: rest
  mantissa ++ 'e' :: (if place < 0 then '-' else '+') :: digitChars place.natAbs

def finite (s : Style) (d : Scientific) : List Char :=
  let all := digitChars d.digits
  let place := d.exponent + (all.length - 1 : Nat)
  let digits := significant all
  if s.leastPositional.all (· ≤ place) && s.greatestPositional.all (place ≤ ·) then
    s.positional digits place
  else withExponent digits place

/-- The text of a number whose sign is given apart. -/
def write (s : Style) (negative : Bool) (m : Magnitude) : String :=
  let sign := if negative then ['-'] else []
  match m with
  | .nan => "NaN"
  | .infinite => String.ofList (sign ++ ['i', 'n', 'f'])
  | .zero => String.ofList (sign ++ s.positional ['0'] 0)
  | .finite b => String.ofList (sign ++ s.finite (b.shortest s.tie))

def double (s : Style) (x : Float) : String :=
  s.write (isNegativeDouble x) (.ofDouble x)

def single (s : Style) (x : Float32) : String :=
  s.write (isNegativeSingle x) (.ofSingle x)

end Style

/-- Every digit is written out and whole numbers look like integers. -/
def plain : Style := ⟨none, none, false, .above⟩

end VisualNovel.Decimal
