import VisualNovel.Duration

namespace VisualNovel

inductive Fade where
  | none
  | fadeIn (duration : Duration)
  | fadeOut (duration : Duration)
deriving Repr, BEq, DecidableEq

namespace Fade

/-- The fade that goes by a name; other names mean none. -/
def ofEffect (effect : Option String) (duration : Duration) : Fade :=
  match effect with
  | some "fadein" => .fadeIn duration
  | some "fadeout" => .fadeOut duration
  | _ => .none

def initialAlpha : Fade → Float32
  | .fadeIn _ => 0
  | _ => 1

def targetAlpha : Fade → Float32
  | .fadeOut _ => 0
  | _ => 1

def duration : Fade → Duration
  | .none => .zero
  | .fadeIn d => d
  | .fadeOut d => d

def shown : Fade → String
  | .none => "None"
  | .fadeIn d => "In(" ++ d.text ++ ")"
  | .fadeOut d => "Out(" ++ d.text ++ ")"

end Fade

end VisualNovel
