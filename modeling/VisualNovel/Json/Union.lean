import VisualNovel.Json.Record

/-!
Values of several kinds. A tagged union keeps the name of its kind in a field beside the others, or
in front of them in brackets. A union by name is a bare name, or an object whose only key is the
name.
-/

namespace VisualNovel.Json

/-- What stands beside a tag. -/
inductive Payload (α : Type) where
  /-- Further fields do not matter, further elements are refused. -/
  | unit (value : α)
  | record (fields : Record α)

namespace Payload

variable {α : Type}

def ofEntries : Payload α → List (String × Json) → Except Cause α
  | .unit a, _ => .ok a
  | .record r, entries => r.ofEntries entries

def ofItems : Payload α → List Json → Except Cause α
  | .unit a, [] => .ok a
  | .unit _, items => .error (.invalidLength items.length (Record.counted 0 ++ " in sequence"))
  | .record r, items => r.ofItems items

end Payload

structure Tagged (α : Type) where
  tag : String
  title : String
  payload : String → Except Cause (Payload α)

namespace Tagged

variable {α : Type}

def payloadOf (t : Tagged α) : Json → Except Cause (Payload α)
  | .string name => t.payload name
  | json => .error (.invalidType json.shape "variant identifier")

def ofEntries (t : Tagged α) (entries : List (String × Json)) : Except Cause α :=
  match entries.filter (·.1 == t.tag) with
  | [] => .error (.missingField t.tag)
  | [(_, name)] => do (← t.payloadOf name).ofEntries (entries.filter (·.1 != t.tag))
  | _ => .error (.duplicateField t.tag)

def ofItems (t : Tagged α) : List Json → Except Cause α
  | [] => .error (.missingField t.tag)
  | name :: rest => do (← t.payloadOf name).ofItems rest

def value (t : Tagged α) : Json → Except Cause α
  | .object entries => t.ofEntries entries
  | .array items => t.ofItems items
  | json => .error (.invalidType json.shape t.title)

def inspectTag (t : Tagged α) (node : Node) : Except Error Unit := do
  let (shape, offset) ← node.shape
  match shape with
  | .string name =>
    match t.payload name with
    | .ok _ => .ok ()
    | .error cause => .error (.located cause offset)
  | shape => .error (.located (.invalidType shape "variant identifier") offset)

def inspectEntries (t : Tagged α) (depth : Nat) (seen : Bool) : Entries → Except Error Unit
  | .entry key _ colon value _ rest => do
    let key ← key
    if key = t.tag then
      if seen then .error (.located (.duplicateField t.tag) colon)
      t.inspectTag value
      t.inspectEntries depth true rest
    else
      value.read depth
      t.inspectEntries depth seen rest
  | .noColon (.ok key) keyStop next closes =>
    if seen && key == t.tag then
      .error (.located (.duplicateField t.tag) (if closes then next + 1 else next))
    else (Entries.noColon (.ok key) keyStop next closes).readingFault
  | .unfinishedKey (.ok key) keyStop stop =>
    if seen && key == t.tag then .error (.located (.duplicateField t.tag) stop)
    else (Entries.unfinishedKey (.ok key) keyStop stop).readingFault
  | .close stop => if seen then .ok () else .error (.located (.missingField t.tag) stop)
  | entries => entries.readingFault

def inspectItems (t : Tagged α) (depth : Nat) : Items → Except Error Unit
  | .item _ node rest => do
    t.inspectTag node
    rest.read depth
  | .close stop => .error (.located (.missingField t.tag) stop)
  | items => items.readingFault

/-- What stands beside the tag is set aside until all of it is read, and its faults have no place. -/
def decoder (t : Tagged α) : Decoder α where
  value := t.value
  inspect depth node := do
    match node with
    | .object start entries => within depth start fun depth => t.inspectEntries depth false entries
    | .array start items => within depth start fun depth => t.inspectItems depth items
    | node => node.mismatch t.title
    match t.value node.meaning with
    | .ok _ => .ok ()
    | .error cause => .error ⟨cause, none⟩

end Tagged

inductive Variant (α : Type) where
  | unit (value : α)
  | newtype (content : Decoder α)
  | record (fields : Record α)

structure Named (α : Type) where
  variants : List (String × Variant α)

namespace Named

variable {α : Type}

def names (u : Named α) : List String := u.variants.map (·.1)

def variant (u : Named α) (name : String) : Except Cause (Variant α) :=
  match u.variants.lookup name with
  | some v => .ok v
  | none => .error (.unknownVariant name u.names)

/-- The name alone stands for a variant without content. -/
def bare : Variant α → Except Cause α
  | .unit a => .ok a
  | .newtype _ => .error (.invalidType .unitVariant "newtype variant")
  | .record _ => .error (.invalidType .unitVariant "struct variant")

def withContent : Variant α → Json → Except Cause α
  | .unit a, .null => .ok a
  | .unit a, .object [] => .ok a
  | .unit _, json => .error (.invalidType json.shape "unit")
  | .newtype d, json => d.value json
  | .record r, .object entries => r.ofEntries entries
  | .record r, .array items => r.ofItems items
  | .record _, json => .error (.invalidType json.shape "struct variant")

def value (u : Named α) : Json → Except Cause α
  | .string name => do bare (← u.variant name)
  | .object [(name, content)] => do withContent (← u.variant name) content
  | .object _ => .error (.invalidValue .map "map with a single key")
  | json => .error (.invalidType json.shape "string or map")

def inspectContent (depth : Nat) : Variant α → Node → Except Error Unit
  | .unit _, .null _ _ => .ok ()
  | .unit _, node => node.mismatch "unit"
  | .newtype d, node => d.inspect depth node
  | .record r, node => r.decoder.inspect depth node

/-- The variant of a name that ends at the given offset. -/
def variantAt (u : Named α) (key : Except Error String) (stop : Nat) :
    Except Error (Variant α) := do
  (u.variant (← key)).mapError (.located · stop)

def inspectEntries (u : Named α) (depth : Nat) : Entries → Except Error Unit
  | .entry key keyStop _ value after rest => do
    let v ← u.variantAt key keyStop
    inspectContent depth v value
    match rest with
    | .close _ => .ok ()
    | .unfinished stop false => .error (.located .unfinishedObject stop)
    | _ => .error (.located .expectedValue after)
  | .noColon key keyStop next _ => do
    let _ ← u.variantAt key keyStop
    .error (.located .expectedColon (next + 1))
  | .unfinishedKey key keyStop stop => do
    let _ ← u.variantAt key keyStop
    .error (.located .unfinishedObject stop)
  | .close stop => .error (.located .expectedValue stop)
  | entries => entries.readingFault

def inspect (u : Named α) (depth : Nat) : Node → Except Error Unit
  | .string key stop => do
    let v ← u.variantAt key stop
    match bare v with
    | .ok _ => .ok ()
    | .error cause => .error ⟨cause, none⟩
  | .object start entries => within depth start fun depth => u.inspectEntries depth entries
  | .brokenString reading _ => .error reading
  | .missing stop => .error (.located .unfinishedValue stop)
  | .null start _ | .bool _ start _ | .number _ start _ | .array start _ | .broken start _ _ =>
    .error (.located .expectedValue (start + 1))

def decoder (u : Named α) : Decoder α := ⟨u.value, u.inspect⟩

end Named

end VisualNovel.Json
