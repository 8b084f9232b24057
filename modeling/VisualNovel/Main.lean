import VisualNovel.CommandLine.Run

/-!
The program: it takes the files that a run is about into a disk, runs, and puts back what changed.
-/

namespace VisualNovel.Terminal

open CommandLine (Invocation Result Topic begin conclude)

/-- Take a file of this machine into the disk. -/
def fetch (d : Disk) (path : String) : IO Disk := do
  match ← (IO.FS.readBinFile path).toBaseIO with
  | .ok content =>
    let d := (d.makeFolders (Path.parent path)).2
    return (d.write path content).toOption.getD d
  | .error (.inappropriateType ..) => return (d.makeFolders path).2
  | .error _ => return d

/-- Put files of the disk back when they changed. -/
def putBack (before after : Disk) (paths : List String) : IO Unit := do
  for path in paths do
    match before.read path, after.read path with
    | .ok old, .ok new => if old.data != new.data then IO.FS.writeBinFile path new
    | .error _, .ok new => IO.FS.writeBinFile path new
    | .ok _, .error _ => IO.FS.removeFile path
    | .error _, .error _ => pure ()

/-- An empty disk, at the folder where the program runs. -/
def hereDisk : IO Disk := do
  let folder := (← IO.currentDir).toString
  let d := (({} : Disk).makeFolders folder).2
  return { d with working := ((Path.steps folder).filter (· != ".")).reverse }

def display (text : String) : IO Unit := do
  let out ← IO.getStdout
  out.putStr text
  out.flush

/-- Read to the next line break; nothing is read at the end. -/
partial def readLine (input : IO.FS.Stream) (bytes : Array UInt8) : IO (Array UInt8) := do
  let next ← input.read 1
  if next.isEmpty then return bytes
  else if next.data.back? == some Session.Line.newline then return bytes ++ next.data
  else readLine input (bytes ++ next.data)

def milliseconds (d : Duration) : UInt32 := (min d.millis (twoTo 32 - 1)).toUInt32

/-- Play a session to its end in real time. -/
partial def converse (s : Session) (clock : Nat) : IO Session := do
  let (text, s) := s.takeOutput
  display text
  match s.phase with
  | .over _ => return s
  | .revealing _ =>
    IO.sleep (milliseconds s.wakeInterval)
    let now ← IO.monoNanosNow
    converse (s.wake (.saturating (now - clock))) now
  | .prompting =>
    let line ← readLine (← IO.getStdin) #[]
    let s := if line.isEmpty then s.endInput else s.feed (.ofBytes line.toList)
    converse s (← IO.monoNanosNow)

def tell (result : Result) : IO UInt32 := do
  display result.output
  match result.exit with
  | .misuse => IO.eprint Topic.program.text
  | .clockOverflow => IO.eprintln ClockOverflow.message
  | _ => IO.eprint (result.exit.report?.getD "")
  return result.exit.code.toUInt32

def randomSeed : IO Nat := do
  return (← IO.getRandomBytes 8).toList.foldl (fun n b => n * 256 + b.toNat) 0

def perform (arguments : List String) : IO UInt32 := do
  let files := match Invocation.ofArguments arguments with
    | .ok i => i.files
    | .error _ => []
  let before ← files.foldlM fetch (← hereDisk)
  match begin before (some (← randomSeed)) arguments with
  | .done result => tell result
  | .play p =>
    let session ← converse p.session (← IO.monoNanosNow)
    let (result, after) := conclude before { p with session }
    putBack before after files
    tell result

end VisualNovel.Terminal

def main (arguments : List String) : IO UInt32 :=
  VisualNovel.Terminal.perform arguments
