import VisualNovel.Json.Decoder

/-!
Records: named fields in any order, or their values in brackets in the order of declaration.
Fields with other names are skipped. No field may be given twice, under whichever of its names.
-/

namespace VisualNovel.Json

/-- Whether a field may be left out: `nullable` ones only in the form with names. -/
inductive Presence where
  | required
  | nullable
  | defaulted
deriving Repr, BEq, DecidableEq

structure Field where
  name : String
  aliases : List String
  presence : Presence
  check : Json → Except Cause Unit
  inspect : Nat → Node → Except Error Unit

def Field.isNamed (f : Field) (name : String) : Bool := f.name == name || f.aliases.contains name

/-- Some fields, and what their values make up. -/
structure Fields (α : Type) where
  known : List Field
  build : (String → Option Json) → Except Cause α

namespace Fields

variable {α β : Type}

protected def pure (a : α) : Fields α := ⟨[], fun _ => .ok a⟩

protected def seq (f : Fields (α → β)) (x : Fields α) : Fields β where
  known := f.known ++ x.known
  build look := do
    let g ← f.build look
    let a ← x.build look
    return g a

instance : Applicative Fields where
  pure := Fields.pure
  seq f x := Fields.seq f (x ())

/-- What the fields make up may still be refused. -/
def andThen (x : Fields α) (f : α → Except Cause β) : Fields β where
  known := x.known
  build look := x.build look >>= f

def one (name : String) (aliases : List String) (presence : Presence) (d : Decoder α)
    (absent : Except Cause α) : Fields α where
  known := [⟨name, aliases, presence, fun json => d.value json >>= fun _ => .ok (), d.inspect⟩]
  build look :=
    match look name with
    | some json => d.value json
    | none => absent

def required (name : String) (d : Decoder α) : Fields α :=
  one name [] .required d (.error (.missingField name))

def defaulted (name : String) (d : Decoder α) (default : α) : Fields α :=
  one name [] .defaulted d (.ok default)

def optional (name : String) (d : Decoder α) (aliases : List String := []) : Fields (Option α) :=
  one name aliases .defaulted d.option (.ok none)

def nullable (name : String) (d : Decoder α) : Fields (Option α) :=
  one name [] .nullable d.option (.ok none)

end Fields

structure Record (α : Type) where
  title : String
  fields : Fields α
  /-- What is said to be expected when the form in brackets is too short. -/
  lengthTitle : String
  /-- Other fields are refused. -/
  closed : Bool := false

namespace Record

variable {α : Type}

def counted (n : Nat) : String := if n = 1 then "1 element" else s!"{n} elements"

def ofFields (title : String) (fields : Fields α) : Record α where
  title
  fields
  lengthTitle := title ++ " with " ++ counted fields.known.length

def map {β : Type} (f : α → β) (r : Record α) : Record β :=
  { r with fields := f <$> r.fields }

def field? (r : Record α) (name : String) : Option Field := r.fields.known.find? (·.isNamed name)

def names (r : Record α) : List String := r.fields.known.map Field.name

/-- The first required field that is not among the given ones. -/
def missing? (r : Record α) (present : String → Bool) : Option Cause :=
  (r.fields.known.find? fun f => f.presence == .required && !present f.name).map
    (.missingField ·.name)

/-- The place in brackets of the first field, from the given one on, that cannot be left out. -/
def missingPlace? (first : Nat) : List Field → Option Nat
  | [] => none
  | f :: rest => if f.presence == .defaulted then missingPlace? (first + 1) rest else some first

/-- The known fields under their own names, each checked as it comes. -/
def collect (r : Record α) (found : List (String × Json)) :
    List (String × Json) → Except Cause (List (String × Json))
  | [] => .ok found
  | (key, json) :: rest =>
    match r.field? key with
    | none => if r.closed then .error (.unknownField key r.names) else r.collect found rest
    | some f =>
      if (found.lookup f.name).isSome then .error (.duplicateField f.name)
      else do
        f.check json
        r.collect ((f.name, json) :: found) rest

def ofEntries (r : Record α) (entries : List (String × Json)) : Except Cause α := do
  let found ← r.collect [] entries
  if let some cause := r.missing? fun name => (found.lookup name).isSome then
    .error cause
  r.fields.build (found.lookup ·)

/-- Check values against fields from the given place on. -/
def checkItems (r : Record α) (total : Nat) :
    Nat → List Field → List Json → Except Cause Unit
  | _, [], [] => .ok ()
  | _, [], _ :: _ =>
    .error (.invalidLength total (counted r.fields.known.length ++ " in sequence"))
  | place, fields, [] =>
    match missingPlace? place fields with
    | some n => .error (.invalidLength n r.lengthTitle)
    | none => .ok ()
  | place, f :: fields, item :: rest => do
    f.check item
    r.checkItems total (place + 1) fields rest

def ofItems (r : Record α) (items : List Json) : Except Cause α := do
  r.checkItems items.length 0 r.fields.known items
  r.fields.build ((r.names.zip items).lookup ·)

def inspectEntries (r : Record α) (depth : Nat) (seen : List String) :
    Entries → Except Error Unit
  | .entry key _ colon value _ rest => do
    let key ← key
    match r.field? key with
    | none =>
      if r.closed then .error (.located (.unknownField key r.names) colon)
      value.skip
      r.inspectEntries depth seen rest
    | some f =>
      if seen.contains f.name then .error (.located (.duplicateField f.name) colon)
      f.inspect depth value
      r.inspectEntries depth (f.name :: seen) rest
  | .noColon (.ok key) keyStop next closes =>
    match r.field? key with
    | some f =>
      if seen.contains f.name then
        .error (.located (.duplicateField f.name) (if closes then next + 1 else next))
      else (Entries.noColon (.ok key) keyStop next closes).readingFault
    | none => (Entries.noColon (.ok key) keyStop next closes).readingFault
  | .unfinishedKey (.ok key) keyStop stop =>
    match r.field? key with
    | some f =>
      if seen.contains f.name then .error (.located (.duplicateField f.name) stop)
      else (Entries.unfinishedKey (.ok key) keyStop stop).readingFault
    | none => (Entries.unfinishedKey (.ok key) keyStop stop).readingFault
  | .close stop =>
    match r.missing? seen.contains with
    | some cause => .error (.located cause stop)
    | none => .ok ()
  | entries => entries.readingFault

def inspectItems (r : Record α) (depth place : Nat) : List Field → Items → Except Error Unit
  | [], items => items.closingFault
  | f :: fields, .item _ node rest => do
    (f.inspect depth node).mapError (·.orAt rest.reached)
    r.inspectItems depth (place + 1) fields rest
  | fields, .close stop =>
    match missingPlace? place fields with
    | some n => .error (.located (.invalidLength n r.lengthTitle) stop)
    | none => .ok ()
  | _, items => items.readingFault

def decoder (r : Record α) : Decoder α where
  value
    | .object entries => r.ofEntries entries
    | .array items => r.ofItems items
    | json => .error (.invalidType json.shape r.title)
  inspect depth
    | .object start entries => within depth start fun depth => r.inspectEntries depth [] entries
    | .array start items => within depth start fun depth =>
      r.inspectItems depth 0 r.fields.known items
    | node => node.mismatch r.title

end Record

end VisualNovel.Json
