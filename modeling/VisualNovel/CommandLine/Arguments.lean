import VisualNovel.CommandLine.Help

/-!
What the arguments of a run ask for. They are read from the left, and the first fault or request
for help decides.
-/

namespace VisualNovel.CommandLine

structure PlayRequest where
  registry : String
  start : String := defaultTimeline
  index : Option Nat := none
  seed : Option Nat := none
  debug : Bool := false
  animate : Bool := true
  save : Bool := false
  resume : Bool := false
deriving Repr, BEq, DecidableEq

inductive Command where
  | play (request : PlayRequest)
  | check (registry : String) (json : Bool)
  | dump (registry : String) (start : String) (seed : Option Nat)
deriving Repr, BEq, DecidableEq

structure Invocation where
  /-- The file of the configuration. -/
  config : Option String
  command : Command
deriving Repr, BEq, DecidableEq

/-- Why nothing is done. -/
inductive Stop where
  | misuse
  | help (topic : Topic)
  | version
deriving Repr, BEq, DecidableEq

/-- Options that were given, by their names. -/
abbrev Options := List (String × Value)

namespace Options

def isOn (o : Options) (name : String) : Bool := (o.lookup name).isSome

def text? (o : Options) (name : String) : Option String :=
  match o.lookup name with
  | some (.text content) => some content
  | _ => none

def number? (o : Options) (name : String) : Option Nat :=
  match o.lookup name with
  | some (.number n) => some n
  | _ => none

end Options

inductive Argument where
  /-- Two hyphens: what follows are no options. -/
  | divider
  /-- An option by its name, with a value behind an equals sign. -/
  | long (name : String) (value : Option String)
  /-- Options of one letter. -/
  | short (letters : List Char)
  | plain (text : String)
deriving Repr, BEq, DecidableEq

def Argument.ofText (text : String) : Argument :=
  match text.toList with
  | ['-', '-'] => .divider
  | '-' :: '-' :: rest =>
    let name := String.ofList (rest.takeWhile (· != '='))
    match rest.dropWhile (· != '=') with
    | [] => .long name none
    | _ :: value => .long name (some (String.ofList value))
  | ['-'] => .plain text
  | '-' :: letters => .short letters
  | _ => .plain text

/-- The arguments that were read so far. -/
structure Reading where
  verb : Option Verb := none
  /-- The file of the configuration that was given before the verb. -/
  outerConfig : Option String := none
  options : Options := []
  /-- The option whose value comes next. -/
  awaited : Option (String × Kind) := none
  registry : Option String := none
  /-- Whether what follows are no options. -/
  divided : Bool := false
  /-- The topic of help, once it is asked for by its verb. -/
  asked : Option Topic := none
deriving Repr, BEq, DecidableEq

namespace Reading

/-- Each option is given once. -/
def set (r : Reading) (name : String) (value : Value) : Except Stop Reading :=
  if r.options.isOn name then .error .misuse
  else .ok { r with options := (name, value) :: r.options, awaited := none }

def topic (r : Reading) : Topic := r.verb.elim .program .verb

def setText (r : Reading) (name : String) (kind : Kind) (content : String) : Except Stop Reading :=
  match kind.read? content with
  | some value => r.set name value
  | none => .error .misuse

def addLong (r : Reading) (name : String) (value : Option String) : Except Stop Reading :=
  match name, value, r.verb with
  | "help", none, _ => .error (.help r.topic)
  | "version", none, none => .error .version
  | _, _, _ =>
    match (ruleOf? r.verb name).map OptionRule.kind, value with
    | none, _ => .error .misuse
    | some .flag, none => r.set name .on
    | some kind, some content => r.setText name kind content
    | some kind, none =>
      if r.options.isOn name then .error .misuse else .ok { r with awaited := some (name, kind) }

def addShort (r : Reading) (letters : List Char) : Except Stop Reading :=
  match letters.head?, r.verb with
  | some 'h', _ => .error (.help r.topic)
  | some 'V', none => .error .version
  | _, _ => .error .misuse

/-- The first plain argument is the verb, the second one the registry, and there is no third. -/
def addPlain (r : Reading) (text : String) : Except Stop Reading :=
  match r.verb with
  | none =>
    if r.divided then .error .misuse
    else if text == helpVerb then .ok { r with asked := some .program }
    else
      match Verb.ofName? text with
      | some verb => .ok { verb := some verb, outerConfig := r.options.text? "config" }
      | none => .error .misuse
  | some _ =>
    if r.registry.isSome || text == "" then .error .misuse else .ok { r with registry := some text }

/-- Ask for help on a part of a topic; only the program as a whole has parts. -/
def ask (r : Reading) (whole : Topic) (name : String) : Except Stop Reading :=
  match whole, Topic.ofName? name with
  | .program, some part => .ok { r with asked := some part }
  | _, _ => .error .misuse

/-- Read the next argument. The value of an option does not look like an option. -/
def add (r : Reading) (text : String) : Except Stop Reading :=
  if let some topic := r.asked then r.ask topic text
  else if r.divided then r.addPlain text
  else
    match r.awaited, Argument.ofText text with
    | some (name, kind), .plain content => r.setText name kind content
    | some _, _ => .error .misuse
    | none, .divider => .ok { r with divided := true }
    | none, .long name value => r.addLong name value
    | none, .short letters => r.addShort letters
    | none, .plain content => r.addPlain content

/-- The configuration that is named behind the verb goes first. -/
def invocation (r : Reading) : Except Stop Invocation :=
  let o := r.options
  let start := (o.text? "start").getD defaultTimeline
  match r.asked, r.verb, r.awaited, r.registry with
  | some topic, _, _, _ => .error (.help topic)
  | none, some verb, none, some registry =>
    .ok ⟨(o.text? "config").or r.outerConfig,
      match verb with
      | .play => .play {
          registry, start
          index := o.number? "from"
          seed := o.number? "seed"
          debug := o.isOn "debug"
          animate := !o.isOn "no-animation"
          save := o.isOn "save"
          resume := o.isOn "resume" }
      | .check => .check registry (o.isOn "json")
      | .dump => .dump registry start (o.number? "seed")⟩
  | _, _, _, _ => .error .misuse

end Reading

def Invocation.ofArguments (arguments : List String) : Except Stop Invocation := do
  (← arguments.foldlM Reading.add {}).invocation

end VisualNovel.CommandLine
