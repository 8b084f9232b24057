import VisualNovel.Geometry

namespace VisualNovel

inductive ButtonRole where
  /-- Pressing it answers the gate. -/
  | choice
  /-- Pressing it selects an option or takes it back. -/
  | toggle
  /-- Pressing it answers the gate with what is selected. -/
  | confirm
deriving Repr, BEq, DecidableEq

inductive ButtonState where
  | idle
  | selected
deriving Repr, BEq, DecidableEq

def ButtonState.name : ButtonState → String
  | .idle => "Idle"
  | .selected => "Selected"

structure Button where
  id : Nat
  role : ButtonRole
  label : String
  box : Box Float32
deriving Repr, BEq

end VisualNovel
