import VisualNovel.Json.Error

namespace VisualNovel

inductive LoadError where
  | unknownTimeline (key : String)
  | malformed (refusal : Json.Refusal)
  | unnamedSnapshot
  | io (reason : String)
deriving Repr, BEq, DecidableEq

namespace LoadError

def message : LoadError → String
  | .unknownTimeline key => s!"Unknown timeline '{key}'"
  | .malformed r =>
    s!"Invalid timeline data: line {r.line}, column {r.column}: " ++ r.message
  | .unnamedSnapshot => "Invalid timeline data: snapshot has no timeline key"
  | .io reason => "IO error: " ++ reason

/-- The message and what is behind it, from the outside in. -/
def chain (e : LoadError) : List String :=
  match e with
  | .malformed r => [e.message, r.message]
  | .io reason => [e.message, reason]
  | _ => [e.message]

end LoadError

end VisualNovel
