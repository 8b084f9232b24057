namespace VisualNovel.CommandLine

/-- Begin the first line with one text and the others with another. -/
def hang (first others text : String) : String :=
  first ++ ("\n" ++ others).intercalate (text.splitOn "\n")

def padLeft (width : Nat) (text : String) : String :=
  "".pushn ' ' (width - text.length) ++ text

/-- A single cause is indented; several are numbered. -/
def causeLines : List String → List String
  | [cause] => [hang "    " "    " cause]
  | causes => causes.mapIdx fun i cause => hang (padLeft 5 (toString i) ++ ": ") "       " cause

/-- An error, and what is behind it from the outside in. -/
def errorReport (message : String) (causes : List String) : String :=
  let behind := if causes.isEmpty then [] else "" :: "Caused by:" :: causeLines causes
  "\n".intercalate (s!"Error: {message}" :: behind) ++ "\n"

end VisualNovel.CommandLine
