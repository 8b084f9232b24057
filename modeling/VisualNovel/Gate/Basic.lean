import VisualNovel.Event.Basic
import VisualNovel.Gate.Layout
import VisualNovel.Gate.Response
import VisualNovel.Random.Shuffle

/-!
Gates: questions that hold up a timeline until a button is pressed. A gate of one kind leads on with
the first press, one of the other kind lets options be selected and grades what is selected.
Buttons are numbered as they are shown; the one that confirms comes last.
-/

namespace VisualNovel

namespace Gate

structure Single where
  choices : List Choice
deriving Repr, BEq

namespace Single

def press (g : Single) (id : Nat) : Response :=
  match g.choices[id]? with
  | some choice => .leadingTo choice.key none
  | none => .refused .ignored

def buttons (g : Single) (layout : GateLayout Float32) (canvas : CanvasSize) : List Button :=
  g.choices.zipIdx.map fun (choice, i) =>
    ⟨i, .choice, choice.text, layout.choiceBox canvas g.choices.length i⟩

end Single

/-- An option, and whether it is selected. -/
structure Toggle where
  choice : MultiChoice
  selected : Bool := false
deriving Repr, BEq

structure Multi where
  /-- The options as they were written. -/
  options : List Toggle
  /-- The numbers of the options in the order in which they are shown. -/
  order : List Nat
  correctKey : String
  incorrectKey : String
  minSelect : Nat
  maxSelect : Option Nat
deriving Repr, BEq

namespace Multi

def ofOrder (set : MultiChoiceSet) (order : List Nat) : Multi where
  options := set.choices.map fun choice => { choice }
  order
  correctKey := set.correctKey
  incorrectKey := set.incorrectKey
  minSelect := set.minSelect
  maxSelect := set.maxSelect

/-- The gate that shows the options as they were written. -/
def ofSet (set : MultiChoiceSet) : Multi := .ofOrder set (.range set.choices.length)

def forSet (set : MultiChoiceSet) (r : Random) : Multi × Random :=
  let authored := List.range set.choices.length
  if set.shuffle then
    let (order, r) := r.shuffle authored
    (.ofOrder set order, r)
  else (.ofOrder set authored, r)

def buttonFor? (g : Multi) (option : Nat) : Option Nat := g.order.idxOf? option

def confirmButton (g : Multi) : Nat := g.order.length

/-- The numbers of the selected options, ascending. -/
def selected (g : Multi) : List Nat :=
  g.options.zipIdx.filterMap fun (t, i) => if t.selected then some i else none

def selectedCount (g : Multi) : Nat := g.options.countP Toggle.selected

def isFull (g : Multi) : Bool := g.maxSelect.any (· ≤ g.selectedCount)

def setSelected (g : Multi) (option : Nat) (selected : Bool) : Multi :=
  { g with options := g.options.modify option ({ · with selected }) }

/-- Select the option shown at a place, or take it back. -/
def toggle (g : Multi) (id : Nat) : Response × Multi :=
  match g.order[id]? with
  | none => (.refused .ignored, g)
  | some option =>
    match g.options[option]? with
    | none => (.refused .ignored, g)
    | some t =>
      if t.selected then (.toggled option .idle, g.setSelected option false)
      else if g.isFull then (.refused .rejected, g)
      else (.toggled option .selected, g.setSelected option true)

/-- The points of a selection; a sum of none is a negative zero. -/
def score (toggles : List Toggle) : Float :=
  (toggles.filterMap fun t => if t.selected then t.choice.point else none).foldl (· + ·) (-0.0)

/-- A selection is correct when it is made up of the correct options. -/
def grade (g : Multi) : Verdict where
  correct := g.options.all fun t => t.selected == t.choice.correct
  score := score g.options
  contraindicated := g.options.any fun t => t.selected && t.choice.contraindication
  selected := g.selected

def confirm (g : Multi) : Response :=
  if g.selectedCount < g.minSelect then .refused .belowMinimum
  else
    let verdict := g.grade
    .leadingTo (if verdict.correct then g.correctKey else g.incorrectKey) (some verdict)

def press (g : Multi) (id : Nat) : Response × Multi :=
  if id = g.confirmButton then (g.confirm, g) else g.toggle id

def label (g : Multi) (option : Nat) : String :=
  (g.options[option]?).elim "" (·.choice.text)

def buttons (g : Multi) (layout : GateLayout Float32) (canvas : CanvasSize) : List Button :=
  (g.order.zipIdx.map fun (option, i) =>
      ⟨i, .toggle, g.label option, layout.optionBox canvas g.order.length i⟩)
    ++ [⟨g.confirmButton, .confirm, layout.confirmLabel, layout.confirmBox canvas⟩]

end Multi

end Gate

inductive Gate where
  | single (gate : Gate.Single)
  | multi (gate : Gate.Multi)
deriving Repr, BEq

namespace Gate

def press : Gate → Nat → Response × Gate
  | .single g, id => (g.press id, .single g)
  | .multi g, id =>
    let (response, g) := g.press id
    (response, .multi g)

def buttonCount : Gate → Nat
  | .single g => g.choices.length
  | .multi g => g.options.length + 1

def buttons (g : Gate) (layout : GateLayout Float32) (canvas : CanvasSize) : List Button :=
  match g with
  | .single g => g.buttons layout canvas
  | .multi g => g.buttons layout canvas

end Gate

end VisualNovel
