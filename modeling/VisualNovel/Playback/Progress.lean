import VisualNovel.Navigation

namespace VisualNovel

inductive Progress where
  /-- A line is being shown. -/
  | typing
  /-- A pointer down leads on. -/
  | waitInput
  /-- A gate has to be answered. -/
  | waitChoice
  /-- The last event has no meaning here; a pointer down leads on. -/
  | stalled
  /-- There are no more events. -/
  | ended
  /-- The host has to take over. -/
  | navigate (navigation : Navigation)
  /-- The host was asked to take over before. -/
  | finished
deriving Repr, BEq

namespace Progress

def isTerminal : Progress → Bool
  | .ended => true
  | .navigate _ => true
  | .finished => true
  | _ => false

def shown : Progress → String
  | .typing => "Typing"
  | .waitInput => "WaitInput"
  | .waitChoice => "WaitChoice"
  | .stalled => "Stalled"
  | .ended => "Ended"
  | .navigate n => "Navigate(" ++ n.shown ++ ")"
  | .finished => "Finished"

end Progress

end VisualNovel
