/-!
Points and boxes on a canvas, over any kind of coordinates. The canvas itself has single-precision
coordinates; laws about layouts can be stated over exact ones.
-/

namespace VisualNovel

/-- The operations that layouts need of coordinates. -/
class Scalar (α : Type) extends Add α, Sub α, Mul α, Div α where
  ofNat : Nat → α
  half : α
  max : α → α → α

/-- The greater of two numbers, and of a number and no number the number. -/
def maxSingle (a b : Float32) : Float32 :=
  if a.isNaN then b else if b.isNaN then a else if a < b then b else a

instance : Scalar Float32 where
  ofNat := Float32.ofNat
  half := 0.5
  max := maxSingle

structure Point (α : Type) where
  x : α
  y : α
deriving Repr, BEq, DecidableEq

structure Extent (α : Type) where
  width : α
  height : α
deriving Repr, BEq, DecidableEq

structure Box (α : Type) where
  center : Point α
  extent : Extent α
deriving Repr, BEq, DecidableEq

abbrev Position := Point Float32

abbrev CanvasSize := Extent Float32

namespace Extent

variable {α : Type} [Scalar α]

def center (e : Extent α) : Point α :=
  ⟨e.width / Scalar.ofNat 2, e.height / Scalar.ofNat 2⟩

/-- A point by optional coordinates, each centered when it is not given. -/
def place (e : Extent α) (x y : Option α) : Point α :=
  ⟨x.getD e.center.x, y.getD e.center.y⟩

end Extent

def defaultCanvas : CanvasSize := ⟨960, 800⟩

end VisualNovel
