import VisualNovel.Navigation
import VisualNovel.Powers
import VisualNovel.Text.Natural

namespace VisualNovel.CommandLine

inductive Verb where
  | play
  | check
  | dump
deriving Repr, BEq, DecidableEq

namespace Verb

def all : List Verb := [.play, .check, .dump]

def name : Verb → String
  | .play => "play"
  | .check => "check"
  | .dump => "dump"

def ofName? (name : String) : Option Verb := all.find? (·.name == name)

def purpose : Verb → String
  | .play => "Play a registry interactively in the terminal"
  | .check => "Lint a registry and report problems"
  | .dump => "Run a registry headless and print the recorded surface commands"

end Verb

inductive Kind where
  | flag
  | text
  | file
  /-- A number of 64 bits. -/
  | number
deriving Repr, BEq, DecidableEq

inductive Value where
  | on
  | text (content : String)
  | number (n : Nat)
deriving Repr, BEq, DecidableEq

/-- Read the value of an option; the name of a file is not empty. -/
def Kind.read? (kind : Kind) (content : String) : Option Value :=
  match kind with
  | .flag => none
  | .text => some (.text content)
  | .file => if content == "" then none else some (.text content)
  | .number => ((Text.natural? content.toList).filter (· < twoTo 64)).map .number

structure OptionRule where
  name : String
  kind : Kind
  purpose : String
  /-- The value that goes where none is given. -/
  default : Option String := none
deriving Repr, BEq, DecidableEq

def configRule : OptionRule :=
  ⟨"config", .file, "Player configuration JSON (canvas, timing, gate layout)", none⟩

def startRule : OptionRule := ⟨"start", .text, "Timeline to start with", some defaultTimeline⟩

def seedRule : OptionRule := ⟨"seed", .number, "Seed for the multi-choice shuffle", none⟩

def Verb.ownRules : Verb → List OptionRule
  | .play =>
    [startRule, ⟨"from", .number, "Event index to start at", none⟩, seedRule,
      ⟨"debug", .flag, "Show cursor state and verbose engine logs", none⟩,
      ⟨"no-animation", .flag, "Show dialog lines at once instead of typing them out", none⟩,
      ⟨"save", .flag, "Save the cursor next to the registry when quitting", none⟩,
      ⟨"resume", .flag, "Start from the saved cursor, if there is one", none⟩]
  | .check => [⟨"json", .flag, "Print the lint result as JSON", none⟩]
  | .dump => [startRule, seedRule]

/-- The options that may follow a verb, and those that may come before any. The configuration goes
everywhere. -/
def rulesOf : Option Verb → List OptionRule
  | none => [configRule]
  | some verb => configRule :: verb.ownRules

def ruleOf? (verb : Option Verb) (name : String) : Option OptionRule :=
  (rulesOf verb).find? (·.name == name)

end VisualNovel.CommandLine
