import VisualNovel.CommandLine.Options

namespace VisualNovel.CommandLine

inductive Topic where
  | program
  | verb (verb : Verb)
  | help
deriving Repr, BEq, DecidableEq

def helpVerb : String := "help"

def helpPurpose : String := "Print this message or the help of the given subcommand(s)"

/-- Help is a topic of its own. -/
def Topic.ofName? (name : String) : Option Topic :=
  if name == helpVerb then some .help else (Verb.ofName? name).map .verb

/-- A term, and what is said about it. -/
structure Row where
  term : String
  text : String
deriving Repr, BEq, DecidableEq

/-- The texts of a table begin in one column. -/
def tableLines (rows : List Row) : List String :=
  let width := (rows.map (·.term.length)).foldl max 0
  rows.map fun r => "  " ++ r.term.pushn ' ' (width - r.term.length) ++ "  " ++ r.text

structure Table where
  title : String
  rows : List Row
deriving Repr, BEq, DecidableEq

structure Page where
  purpose : String
  usage : String
  tables : List Table
deriving Repr, BEq, DecidableEq

/-- The parts of a page stand apart by an empty line. -/
def Page.text (p : Page) : String :=
  let blocks := [p.purpose] :: ["Usage: emaki " ++ p.usage] ::
    p.tables.map fun t => (t.title ++ ":") :: tableLines t.rows
  "\n\n".intercalate (blocks.map "\n".intercalate) ++ "\n"

/-- Options stand four places in, behind the room for a short name. -/
def OptionRule.row (r : OptionRule) : Row where
  term := "    --" ++ r.name ++ if r.kind == .flag then "" else " <" ++ r.name.toUpper ++ ">"
  text := r.purpose ++ match r.default with
    | some value => " [default: " ++ value ++ "]"
    | none => ""

def optionTable (verb : Option Verb) : Table where
  title := "Options"
  rows := (rulesOf verb).map OptionRule.row ++ ⟨"-h, --help", "Print help"⟩ ::
    if verb.isNone then [⟨"-V, --version", "Print version"⟩] else []

def verbTable : Table where
  title := "Commands"
  rows := Verb.all.map (fun v => ⟨v.name, v.purpose⟩) ++ [⟨helpVerb, helpPurpose⟩]

def Topic.page : Topic → Page
  | .program =>
    ⟨"Data-driven visual novel timeline player", "[OPTIONS] <COMMAND>",
      [verbTable, optionTable none]⟩
  | .verb v =>
    ⟨v.purpose, v.name ++ " [OPTIONS] <REGISTRY>",
      [⟨"Arguments", [⟨"<REGISTRY>", "Registry JSON file"⟩]⟩, optionTable (some v)]⟩
  | .help =>
    ⟨helpPurpose, helpVerb ++ " [COMMAND]...",
      [⟨"Arguments", [⟨"[COMMAND]...", "Print help for the subcommand(s)"⟩]⟩]⟩

def Topic.text (t : Topic) : String := t.page.text

def versionText : String := "emaki 0.1.0\n"

end VisualNovel.CommandLine
