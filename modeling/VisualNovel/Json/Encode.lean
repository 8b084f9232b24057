import VisualNovel.Dict
import VisualNovel.Json.Basic

namespace VisualNovel.Json

class Encode (α : Type) where
  encode : α → Json

export Encode (encode)

variable {α β : Type} [Encode α] [Encode β]

instance : Encode Json := ⟨id⟩

instance : Encode String := ⟨.string⟩

instance : Encode Bool := ⟨.bool⟩

instance : Encode Nat := ⟨fun n => .number (.integer n)⟩

instance : Encode Float := ⟨fun x => .number (.double x)⟩

instance : Encode Float32 := ⟨fun x => .number (.single x)⟩

instance : Encode (List α) := ⟨fun l => .array (l.map encode)⟩

instance : Encode (Option α) := ⟨fun o => o.elim .null encode⟩

instance : Encode (Dict α) := ⟨fun m => .object (m.entries.map fun (k, v) => (k, encode v))⟩

instance : Encode (α × β) := ⟨fun (a, b) => .array [encode a, encode b]⟩

def field (name : String) (a : α) : List (String × Json) := [(name, encode a)]

/-- A field that is written only when it has a value. -/
def present (name : String) (a : Option α) : List (String × Json) :=
  match a with
  | none => []
  | some a => [(name, encode a)]

end VisualNovel.Json
