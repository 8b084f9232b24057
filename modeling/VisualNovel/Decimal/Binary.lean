import VisualNovel.Powers

/-!
Binary floating-point numbers taken apart into an integer times a power of two.
-/

namespace VisualNovel.Decimal

/-- A positive number `significand * 2 ^ exponent` of a binary format. -/
structure Binary where
  significand : Nat
  exponent : Int
  /-- The neighbour below is half as far away as the one above. -/
  narrowBelow : Bool
deriving Repr, BEq, DecidableEq

/-- What the bits of a floating-point number stand for. -/
inductive Magnitude where
  | nan
  | infinite
  | zero
  | finite (value : Binary)
deriving Repr, BEq, DecidableEq

/-- Take apart a format with `fractionBits` bits of fraction and the given exponent of its least
unit; `field` is the biased exponent and `top` the one kept for infinities. -/
def Magnitude.ofFields (fractionBits : Nat) (least : Int) (top field fraction : Nat) : Magnitude :=
  if field = top then
    if fraction = 0 then .infinite else .nan
  else if field = 0 then
    if fraction = 0 then .zero else .finite ⟨fraction, least, false⟩
  else
    .finite ⟨twoTo fractionBits + fraction, least + (field - 1 : Nat), fraction = 0 && field != 1⟩

def Magnitude.ofDouble (x : Float) : Magnitude :=
  let bits := x.toBits.toNat
  .ofFields 52 (-1074) 2047 (bits / twoTo 52 % 2048) (bits % twoTo 52)

def Magnitude.ofSingle (x : Float32) : Magnitude :=
  let bits := x.toBits.toNat
  .ofFields 23 (-149) 255 (bits / twoTo 23 % 256) (bits % twoTo 23)

def isNegativeDouble (x : Float) : Bool := x.toBits.toNat / twoTo 63 == 1

def isNegativeSingle (x : Float32) : Bool := x.toBits.toNat / twoTo 31 == 1

def toSingle (x : Float) : Float32 :=
  let size : Float32 :=
    match Magnitude.ofDouble x with
    | .nan => Float32.ofBits 0x7FC00000
    | .infinite => Float32.ofBits 0x7F800000
    | .zero => 0
    | .finite b =>
      if b.exponent ≥ 0 then Float32.ofScientific (b.significand * twoTo b.exponent.toNat) false 0
      else
        -- dividing by a power of two is multiplying by one of five and moving the point
        let places := (-b.exponent).toNat
        Float32.ofScientific (b.significand * Nat.pow 5 places) true places
  if isNegativeDouble x then -size else size

def singleOfInt (n : Int) : Float32 :=
  if n < 0 then -Float32.ofNat n.natAbs else Float32.ofNat n.natAbs

def doubleOfInt (n : Int) : Float :=
  if n < 0 then -Float.ofNat n.natAbs else Float.ofNat n.natAbs

end VisualNovel.Decimal
