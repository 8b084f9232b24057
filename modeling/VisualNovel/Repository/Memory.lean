import VisualNovel.Repository.Error

namespace VisualNovel.Repository

structure Memory where
  registries : Dict Registry := {}
deriving Repr, BEq

namespace Memory

def add (m : Memory) (name : String) (registry : Registry) : Memory :=
  ⟨m.registries.insert name registry⟩

def registryExists (m : Memory) (name : String) : Bool := m.registries.contains name

def loadRegistry (m : Memory) (name : String) : Except Error Registry :=
  match m.registries.get? name with
  | some registry => .ok registry
  | none => .error (.noRegistry name)

/-- Nothing can be saved, whatever it is. -/
def saveRegistry (_ : Memory) (_ : String) (_ : Registry) : Except Error Unit := .error .readOnly

def registryNames (m : Memory) : List String := m.registries.keys

end Memory

end VisualNovel.Repository
