import VisualNovel.Stage.Command

namespace VisualNovel.Gate

structure Verdict where
  correct : Bool
  /-- What the selected options add up to. -/
  score : Float
  /-- An option is selected that must never be picked. -/
  contraindicated : Bool
  /-- The selected options in the order in which they were written, ascending. -/
  selected : List Nat
deriving Repr, BEq

inductive Refusal where
  /-- There is no such button. -/
  | ignored
  /-- As many options are selected as may be. -/
  | rejected
  /-- Fewer options are selected than have to be. -/
  | belowMinimum
deriving Repr, BEq, DecidableEq

def Refusal.name : Refusal → String
  | .ignored => "Ignored"
  | .rejected => "Rejected"
  | .belowMinimum => "BelowMinimum"

inductive Response where
  | refused (reason : Refusal)
  /-- An option changed its state. -/
  | toggled (option : Nat) (state : ButtonState)
  /-- The gate leads to a timeline. -/
  | resolved (destination : String) (verdict : Option Verdict)
  /-- The gate leads nowhere. -/
  | fallback (verdict : Option Verdict)
deriving Repr, BEq

namespace Response

/-- An empty key leads nowhere. -/
def leadingTo (destination : String) (verdict : Option Verdict) : Response :=
  if destination.isEmpty then .fallback verdict else .resolved destination verdict

/-- What the response to pressing a button asks of the stage. -/
def commands (id : Nat) : Response → List Command
  | .toggled _ state => [.setButtonState id state]
  | _ => []

end Response

end VisualNovel.Gate
