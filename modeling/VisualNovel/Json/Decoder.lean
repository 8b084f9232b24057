import VisualNovel.Dict
import VisualNovel.Json.Node

/-!
Reading typed values. A decoder says what a value means, and it finds the first fault of a text in
the order in which the text is read; a text without one means what its value means.
-/

namespace VisualNovel.Json

structure Decoder (α : Type) where
  value : Json → Except Cause α
  /-- The first fault of a text, for so many brackets that may still open. -/
  inspect : Nat → Node → Except Error Unit

/-- The deepest nesting of brackets that is read. -/
def greatestDepth : Nat := 127

def Items.forEach (look : Node → Except Error Unit) : Items → Except Error Unit
  | .item _ node rest => do
    (look node).mapError (·.orAt rest.reached)
    rest.forEach look
  | items => items.readingFault

def Entries.forEach (look : Node → Except Error Unit) : Entries → Except Error Unit
  | .entry key _ _ value _ rest => do
    let _ ← key
    look value
    rest.forEach look
  | entries => entries.readingFault

/-- Brackets may open while `depth` lasts. -/
def within (depth start : Nat) (look : Nat → Except Error Unit) : Except Error Unit :=
  match depth with
  | 0 => .error (.located .tooDeep (start + 1))
  | depth + 1 => look depth

namespace Decoder

variable {α β : Type}

def decode (d : Decoder α) (text : String) : Except Refusal α :=
  let document := Document.ofText text
  let result : Except Error α := do
    d.inspect greatestDepth document.root
    if let some start := document.extra then
      .error (.located .trailingCharacters (start + 1))
    (d.value document.root.meaning).mapError (⟨·, none⟩)
  result.mapError (·.inText text)

def map (f : α → β) (d : Decoder α) : Decoder β where
  value json := f <$> d.value json
  inspect := d.inspect

/-- A decoder that looks at no more than the shape of a value. -/
def scalar (ofShape : Shape → Except Cause α) : Decoder α where
  value json := ofShape json.shape
  inspect _ node := do
    let (shape, offset) ← node.shape
    match ofShape shape with
    | .ok _ => .ok ()
    | .error cause => .error (.located cause offset)

def string : Decoder String := scalar fun
  | .string s => .ok s
  | shape => .error (.invalidType shape "a string")

def bool : Decoder Bool := scalar fun
  | .bool b => .ok b
  | shape => .error (.invalidType shape "a boolean")

/-- An integer from zero up to and without `bound`. -/
def natural (bound : Nat) (expected : String) : Decoder Nat := scalar fun
  | .integer n =>
    if 0 ≤ n && n < bound then .ok n.toNat else .error (.invalidValue (.integer n) expected)
  | shape => .error (.invalidType shape expected)

def index : Decoder Nat := natural (twoTo 64) "usize"

def word64 : Decoder Nat := natural (twoTo 64) "u64"

def word32 : Decoder Nat := natural (twoTo 32) "u32"

def double : Decoder Float := scalar fun
  | .integer n => .ok (Decimal.doubleOfInt n)
  | .double x => .ok x
  | shape => .error (.invalidType shape "f64")

def single : Decoder Float32 := scalar fun
  | .integer n => .ok (Decimal.singleOfInt n)
  | .double x => .ok (Decimal.toSingle x)
  | shape => .error (.invalidType shape "f32")

/-- Any value at all, in canonical form. -/
def any : Decoder Json where
  value json := .ok json.canonical
  inspect := Node.read

def option (d : Decoder α) : Decoder (Option α) where
  value
    | .null => .ok none
    | json => some <$> d.value json
  inspect depth
    | .null _ _ => .ok ()
    | node => d.inspect depth node

def list (d : Decoder α) : Decoder (List α) where
  value
    | .array items => items.mapM d.value
    | json => .error (.invalidType json.shape "a sequence")
  inspect depth
    | .array start items => within depth start fun depth => items.forEach (d.inspect depth)
    | node => node.mismatch "a sequence"

/-- Of a repeated name the last value counts, but each is looked at. -/
def dict (d : Decoder α) : Decoder (Dict α) where
  value
    | .object fields => Dict.ofList <$> fields.mapM fun (key, json) => (key, ·) <$> d.value json
    | json => .error (.invalidType json.shape "a map")
  inspect depth
    | .object start entries => within depth start fun depth => entries.forEach (d.inspect depth)
    | node => node.mismatch "a map"

/-- Two values in brackets. -/
def pair (a : Decoder α) (b : Decoder β) : Decoder (α × β) where
  value
    | .array [x, y] => return (← a.value x, ← b.value y)
    | .array items => .error (.invalidLength items.length "a tuple of size 2")
    | json => .error (.invalidType json.shape "a tuple of size 2")
  inspect depth
    | .array start items => within depth start fun depth =>
      let wrongLength (n stop : Nat) : Error := .located (.invalidLength n "a tuple of size 2") stop
      match items with
      | .close stop => .error (wrongLength 0 stop)
      | .item _ x rest => do
        (a.inspect depth x).mapError (·.orAt rest.reached)
        match rest with
        | .close stop => .error (wrongLength 1 stop)
        | .item _ y rest => do
          (b.inspect depth y).mapError (·.orAt rest.reached)
          rest.closingFault
        | rest => rest.readingFault
      | items => items.readingFault
    | node => node.mismatch "a tuple of size 2"

end Decoder

end VisualNovel.Json
