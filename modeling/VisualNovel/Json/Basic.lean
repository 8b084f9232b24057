/-!
Values of the data format. The fields of an object keep the order in which they are written;
`canonical` is the form in which opaque payloads are kept: fields ascending by key, and of a
repeated key the last value.
-/

namespace VisualNovel

inductive Json.Number where
  | integer (value : Int)
  | double (value : Float)
  | single (value : Float32)
deriving Repr, BEq, DecidableEq, Inhabited

inductive Json where
  | null
  | bool (value : Bool)
  | number (value : Json.Number)
  | string (value : String)
  | array (items : List Json)
  | object (fields : List (String × Json))
deriving Repr, BEq, Inhabited

namespace Json

/-- Put a field at its place among fields ascending by key; a field of that key is replaced. -/
def insertField (key : String) (value : Json) : List (String × Json) → List (String × Json)
  | [] => [(key, value)]
  | (k, v) :: rest =>
    if key < k then (key, value) :: (k, v) :: rest
    else if key = k then (key, value) :: rest
    else (k, v) :: insertField key value rest

mutual

def canonical : Json → Json
  | .array items => .array (canonicalItems items)
  | .object fields => .object ((canonicalFields fields).foldl (fun acc (k, v) => insertField k v acc) [])
  | json => json

def canonicalItems : List Json → List Json
  | [] => []
  | item :: rest => canonical item :: canonicalItems rest

def canonicalFields : List (String × Json) → List (String × Json)
  | [] => []
  | field :: rest => canonicalField field :: canonicalFields rest

def canonicalField : String × Json → String × Json
  | (key, value) => (key, canonical value)

end

/-- The value of a field; nothing but an object has fields. -/
def field? (key : String) : Json → Option Json
  | .object fields => fields.lookup key
  | _ => none

def string? : Json → Option String
  | .string s => some s
  | _ => none

end Json

end VisualNovel
