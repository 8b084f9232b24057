import VisualNovel.Dict
import VisualNovel.Disk.Path

namespace VisualNovel

namespace Disk

inductive Entry where
  | file (content : ByteArray)
  | folder

inductive Error where
  | absent
  | exists
  | notFolder
  | isFolder
  | longName
  | nulInName
deriving Repr, BEq, DecidableEq

def Error.message : Error → String
  | .absent => "No such file or directory (os error 2)"
  | .exists => "File exists (os error 17)"
  | .notFolder => "Not a directory (os error 20)"
  | .isFolder => "Is a directory (os error 21)"
  | .longName => "File name too long (os error 36)"
  | .nulInName => "file name contained an unexpected NUL byte"

/-- A folder by the names that lead to it, the last one first. -/
abbrev Location := List String

def Location.key (l : Location) : String := String.join (l.reverse.map ("/" ++ ·))

inductive Target where
  | folder (location : Location)
  /-- A name in a folder, which need not exist. -/
  | name (location : Location) (name : String)
deriving Repr, BEq, DecidableEq

end Disk

structure Disk where
  /-- What the folders hold, by their keys. -/
  folders : Dict (Dict Disk.Entry) := {}
  /-- Where paths that do not begin at the root begin. -/
  working : Disk.Location := []

namespace Disk

def entries (d : Disk) (l : Location) : Dict Entry := (d.folders.get? l.key).getD {}

def find? (d : Disk) (l : Location) (name : String) : Option Entry := (d.entries l).get? name

def setEntries (d : Disk) (l : Location) (entries : Dict Entry) : Disk :=
  { d with folders := d.folders.insert l.key entries }

def put (d : Disk) (l : Location) (name : String) (entry : Entry) : Disk :=
  d.setEntries l ((d.entries l).insert name entry)

def drop (d : Disk) (l : Location) (name : String) : Disk :=
  d.setEntries l ((d.entries l).erase name)

theorem entries_setEntries (d : Disk) (l m : Location) (entries : Dict Entry) :
    (d.setEntries l entries).entries m = if m.key = l.key then entries else d.entries m := by
  simp only [Disk.entries, setEntries, Dict.get?_insert]
  split <;> rfl

theorem find?_put (d : Disk) (l m : Location) (name k : String) (entry : Entry) :
    (d.put l name entry).find? m k =
      if m.key = l.key ∧ k = name then some entry else d.find? m k := by
  simp only [find?, put, entries_setEntries]
  by_cases h : m.key = l.key
  · simp [h, Dict.get?_insert, Disk.entries]
  · simp [h]

theorem find?_drop (d : Disk) (l m : Location) (name k : String) :
    (d.drop l name).find? m k = if m.key = l.key ∧ k = name then none else d.find? m k := by
  simp only [find?, drop, entries_setEntries]
  by_cases h : m.key = l.key
  · simp [h, Dict.get?_erase, Disk.entries]
  · simp [h]

def files (d : Disk) : List (String × ByteArray) :=
  d.folders.entries.flatMap fun (key, entries) =>
    entries.entries.filterMap fun
      | (name, .file content) => some (key ++ "/" ++ name, content)
      | (_, .folder) => none

def maxNameBytes : Nat := 255

def maxPathBytes : Nat := 4095

def enter (d : Disk) (l : Location) (name : String) : Except Error Location :=
  if name == "." then .ok l
  else if name == ".." then .ok l.tail
  else if maxNameBytes < name.utf8ByteSize then .error .longName
  else
    match d.find? l name with
    | none => .error .absent
    | some (.file _) => .error .notFolder
    | some .folder => .ok (name :: l)

/-- Walk along some parts of a path; all but the last are folders. -/
def walk (d : Disk) (l : Location) : List String → Except Error Target
  | [] => .ok (.folder l)
  | [name] =>
    if name == "." then .ok (.folder l)
    else if name == ".." then .ok (.folder l.tail)
    else if maxNameBytes < name.utf8ByteSize then .error .longName
    else .ok (.name l name)
  | name :: rest => do d.walk (← d.enter l name) rest

/-- Why no walk can begin. -/
def refusal? (path : String) : Option Error :=
  if path.toList.contains '\x00' then some .nulInName
  else if path == "" then some .absent
  else if maxPathBytes < path.utf8ByteSize then some .longName
  else none

def origin (d : Disk) (path : String) : Location :=
  if Path.isAbsolute path then [] else d.working

def locate (d : Disk) (path : String) : Except Error Target :=
  match refusal? path with
  | some e => .error e
  | none => d.walk (d.origin path) (Path.steps path)

def holds (d : Disk) (path : String) : Bool :=
  match d.locate path with
  | .error _ => false
  | .ok (.folder _) => true
  | .ok (.name l name) => (d.find? l name).isSome

def read (d : Disk) (path : String) : Except Error ByteArray := do
  match ← d.locate path with
  | .folder _ => throw .isFolder
  | .name l name =>
    match d.find? l name with
    | none => throw .absent
    | some .folder => throw .isFolder
    | some (.file content) => return content

def list (d : Disk) (path : String) : Except Error (List String) := do
  match ← d.locate path with
  | .folder l => return (d.entries l).keys
  | .name l name => return (d.entries (← d.enter l name)).keys

def write (d : Disk) (path : String) (content : ByteArray) : Except Error Disk := do
  match ← d.locate path with
  | .folder _ => throw .isFolder
  | .name l name =>
    match d.find? l name with
    | some .folder => throw .isFolder
    | _ => return d.put l name (.file content)

def remove (d : Disk) (path : String) : Except Error Disk := do
  match ← d.locate path with
  | .folder _ => throw .isFolder
  | .name l name =>
    match d.find? l name with
    | none => throw .absent
    | some .folder => throw .isFolder
    | some (.file _) => return d.drop l name

/-- Make the folders along some parts of a path, as far as they do not exist. What was made stays
when a later one cannot be made. -/
def makeAlong (d : Disk) (l : Location) : List String → Except Error Unit × Disk
  | [] => (.ok (), d)
  | name :: rest =>
    match d.enter l name with
    | .ok l => d.makeAlong l rest
    | .error .absent => (d.put l name .folder).makeAlong (name :: l) rest
    | .error .notFolder => (.error (if rest.isEmpty then .exists else .notFolder), d)
    | .error e => (.error e, d)

def makeFolders (d : Disk) (path : String) : Except Error Unit × Disk :=
  match refusal? path with
  | some .absent => (.ok (), d)
  | some e => (.error e, d)
  | none => d.makeAlong (d.origin path) (Path.steps path)

end Disk

end VisualNovel
