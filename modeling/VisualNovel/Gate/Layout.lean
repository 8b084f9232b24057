import VisualNovel.Config

namespace VisualNovel.GateLayout

variable {α : Type} [Scalar α]

def groupHeight (height margin : α) (count : Nat) : α :=
  height * Scalar.ofNat count + margin * (Scalar.ofNat count - Scalar.ofNat 1)

/-- The box with the given number in a stack that begins at `top`. -/
def stacked (canvas : Extent α) (top height margin : α) (index : Nat) : Box α where
  center := {
    x := canvas.width / Scalar.ofNat 2
    y := top + height * (Scalar.ofNat index + Scalar.half) + margin * Scalar.ofNat index }
  extent := ⟨canvas.width - margin * Scalar.ofNat 2, height⟩

/-- Boxes around the middle of the canvas. -/
def choiceBox (l : GateLayout α) (canvas : Extent α) (count index : Nat) : Box α :=
  let height := l.choiceButtonHeight
  let margin := l.choiceButtonMargin
  let top := canvas.height / Scalar.ofNat 2 - groupHeight height margin count / Scalar.ofNat 2
  stacked canvas top height margin index

/-- Boxes that leave room for the dialog below them. -/
def optionBox (l : GateLayout α) (canvas : Extent α) (count index : Nat) : Box α :=
  let height := l.multiButtonHeight
  let margin := l.multiButtonMargin
  let top := canvas.height / Scalar.ofNat 2 - groupHeight height margin count / Scalar.ofNat 2
    - l.dialogReserve
  stacked canvas (Scalar.max top (Scalar.ofNat 20)) height margin index

def confirmBox (l : GateLayout α) (canvas : Extent α) : Box α where
  center := {
    x := canvas.width / Scalar.ofNat 2
    y := Scalar.max (canvas.height - l.dialogReserve - l.confirmHeight) (Scalar.ofNat 60) }
  extent := ⟨l.confirmWidth, l.confirmHeight⟩

end VisualNovel.GateLayout
