import VisualNovel.Repository.Error

/-!
Registries and snapshots kept in one folder of a disk, each in a file of its own. A registry and
its snapshot go by the same name, and the endings of their files tell them apart.
-/

namespace VisualNovel

structure Repository where
  folder : String
deriving Repr, BEq, DecidableEq

namespace Repository

def saveEnding : String := ".save"

def registryFile (name : String) : String := name ++ ".json"

def snapshotFile (name : String) : String := registryFile (name ++ saveEnding)

def registryPath (r : Repository) (name : String) : String := Path.join r.folder (registryFile name)

def snapshotPath (r : Repository) (name : String) : String := Path.join r.folder (snapshotFile name)

/-- The registry that a file holds, judged by the name of the file. -/
def registryName? (file : String) : Option String :=
  match Path.splitName file with
  | (stem, some "json") => if stem.endsWith saveEnding then none else some stem
  | _ => none

/-- Write a file, and make the folder first. The folder stays when the file cannot be written. -/
def store (r : Repository) (d : Disk) (makeFolder writeFile : Action) (path : String)
    (content : ByteArray) : Except Error Unit × Disk :=
  match d.makeFolders r.folder with
  | (.error e, d) => (.error (.disk makeFolder e), d)
  | (.ok (), d) =>
    match d.write path content with
    | .error e => (.error (.disk writeFile e), d)
    | .ok d => (.ok (), d)

def registryExists (r : Repository) (d : Disk) (name : String) : Bool :=
  d.holds (r.registryPath name)

def loadRegistry (r : Repository) (d : Disk) (name : String) : Except Error Registry := do
  let path := r.registryPath name
  if d.holds path then
    let content ← (d.read path).mapError (.disk (.readRegistry path))
    (Storage.loadRegistry content).mapError (.malformedRegistry path)
  else throw (.noRegistry name)

def saveRegistry (r : Repository) (d : Disk) (name : String) (registry : Registry) :
    Except Error Unit × Disk :=
  let path := r.registryPath name
  r.store d .makeRegistryFolder (.writeRegistry path) path (Storage.saveRegistry registry)

def registryNames (r : Repository) (d : Disk) : Except Error (List String) := do
  let files ← (d.list r.folder).mapError (.disk (.listFolder r.folder))
  return (files.filterMap registryName?).mergeSort (· ≤ ·)

def loadSnapshot? (r : Repository) (d : Disk) (name : String) : Except Error (Option Snapshot) := do
  let path := r.snapshotPath name
  if d.holds path then
    let content ← (d.read path).mapError (.disk (.readSnapshot path))
    some <$> (Storage.loadSnapshot content).mapError .malformedSnapshot
  else return none

def saveSnapshot (r : Repository) (d : Disk) (name : String) (snapshot : Snapshot) :
    Except Error Unit × Disk :=
  let path := r.snapshotPath name
  r.store d .makeSnapshotFolder (.writeSnapshot path) path (Storage.saveSnapshot snapshot)

def deleteSnapshot (r : Repository) (d : Disk) (name : String) : Except Error Disk :=
  let path := r.snapshotPath name
  if d.holds path then (d.remove path).mapError (.disk (.deleteSnapshot path))
  else .error (.noSnapshot name)

end Repository

end VisualNovel
