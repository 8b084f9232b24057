import VisualNovel.Disk.Basic
import VisualNovel.Storage

namespace VisualNovel.Repository

/-- What was asked of the disk. -/
inductive Action where
  | readRegistry (path : String)
  | makeRegistryFolder
  | writeRegistry (path : String)
  | listFolder (path : String)
  | readSnapshot (path : String)
  | makeSnapshotFolder
  | writeSnapshot (path : String)
  | deleteSnapshot (path : String)
deriving Repr, BEq, DecidableEq

def Action.failure : Action → String
  | .readRegistry path => s!"Failed to read registry file {path}"
  | .makeRegistryFolder => "Failed to create registry directory"
  | .writeRegistry path => s!"Failed to write registry file {path}"
  | .listFolder path => s!"Failed to read directory {path}"
  | .readSnapshot path => s!"Failed to read save file {path}"
  | .makeSnapshotFolder => "Failed to create save directory"
  | .writeSnapshot path => s!"Failed to write save file {path}"
  | .deleteSnapshot path => s!"Failed to delete save file {path}"

inductive Error where
  | noRegistry (name : String)
  | noSnapshot (name : String)
  | disk (action : Action) (cause : Disk.Error)
  | malformedRegistry (path : String) (cause : Storage.Error)
  | malformedSnapshot (cause : Storage.Error)
  /-- Registries that are only held in memory cannot be replaced. -/
  | readOnly
deriving Repr, BEq, DecidableEq

namespace Error

def message : Error → String
  | .noRegistry name => s!"Registry not found: {name}"
  | .noSnapshot name => s!"Save data not found for registry: {name}"
  | .disk action cause => s!"IO error: {action.failure}: {cause.message}"
  | .malformedRegistry path cause =>
    s!"Invalid data format: Failed to parse registry {path}: {cause.message}"
  | .malformedSnapshot cause =>
    s!"Serialization error: Failed to deserialize snapshot: {cause.message}"
  | .readOnly => "Repository unavailable: In-memory repository is read-only"

def source? : Error → Option String
  | .noRegistry _ => some "Registry not found"
  | _ => none

def chain (e : Error) : List String := e.message :: e.source?.toList

end Error

end VisualNovel.Repository
