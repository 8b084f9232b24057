import VisualNovel.CommandLine.Arguments
import VisualNovel.CommandLine.Report
import VisualNovel.Dump
import VisualNovel.Lint.Check
import VisualNovel.Repository.Basic
import VisualNovel.Session.Step

namespace VisualNovel.CommandLine

/-- An error and what is behind it, from the outside in. -/
structure Failure where
  message : String
  causes : List String := []
deriving Repr, BEq, DecidableEq

namespace Failure

def ofChain : List String → Failure
  | [] => ⟨"", []⟩
  | message :: causes => ⟨message, causes⟩

def report (f : Failure) : String := errorReport f.message f.causes

end Failure

/-- How a run ends. -/
inductive Exit where
  | success
  | failure (failure : Failure)
  /-- The arguments make no sense. -/
  | misuse
  | clockOverflow
deriving Repr, BEq, DecidableEq

def Exit.code : Exit → Nat
  | .success => 0
  | .failure _ => 1
  | .misuse => 2
  | .clockOverflow => 101

def Exit.report? : Exit → Option String
  | .failure f => some f.report
  | _ => none

structure Result where
  output : String := ""
  exit : Exit := .success
deriving Repr, BEq, DecidableEq

def Result.fail (f : Failure) : Result := { exit := .failure f }

def configOfContent (content : Except Disk.Error ByteArray) : Except LoadError Config := do
  let bytes ← content.mapError fun e => .io e.message
  match Text.Utf8.decode bytes with
  | .ok text => Config.ofText text
  | .error _ => throw (.io "stream did not contain valid UTF-8")

def loadConfig (d : Disk) (path : Option String) : Except Failure Config :=
  match path with
  | none => .ok .default
  | some path =>
    (configOfContent (d.read path)).mapError fun e =>
      ⟨s!"failed to load config {path}", e.chain⟩

/-- A repository and the name of a registry in it. -/
structure Address where
  repository : Repository
  name : String
deriving Repr, BEq, DecidableEq

/-- The file of a registry tells its repository and its name. -/
def Address.ofPath (path : String) : Except Failure Address :=
  match Path.extension? path, Path.stem? path with
  | some "json", some name =>
    let folder := Path.parent path
    .ok ⟨⟨if folder == "" then "." else folder⟩, name⟩
  | _, _ => .error ⟨s!"registry file must end in .json: {path}", []⟩

def loadRegistry (d : Disk) (path : String) : Except Failure (Address × Registry) := do
  let address ← Address.ofPath path
  let registry ← (address.repository.loadRegistry d address.name).mapError fun e =>
    ⟨s!"failed to load registry {path}", e.chain⟩
  return (address, registry)

def check (registry : Registry) (path : String) (json : Bool) : Result :=
  let report := Lint.check {} registry
  let lines := if json then [(Json.encode report).pretty]
    else report.issues.map Lint.Issue.text ++
      [s!"{registry.timelines.size} timeline(s): {report.count .error} error(s), "
        ++ s!"{report.count .warning} warning(s), {report.count .info} info"]
  { output := String.join (lines.map (· ++ "\n"))
    exit := if report.hasErrors
      then .failure ⟨s!"{report.count .error} lint error(s) in {path}", []⟩ else .success }

def dump (registry : Registry) (config : Config) (start : String) : Result :=
  match Dump.run registry config start with
  | .ok report => { output := (Json.encode report).pretty ++ "\n" }
  | .error e => .fail (.ofChain e.chain)

/-- A session that is played, and what is known for its end. -/
structure Play where
  address : Address
  /-- Whether the place is kept for the next time. -/
  save : Bool
  session : Session

def sessionOptions (d : Disk) (address : Address) (request : PlayRequest) :
    Except Failure Session.Options := do
  let asked : Session.Options :=
    { start := request.start, index := request.index, debug := request.debug,
      animate := request.animate }
  if request.resume then
    let found ← (address.repository.loadSnapshot? d address.name).mapError (.ofChain ·.chain)
    return match found with
      | some s => { asked with start := s.timelineKey.getD asked.start, index := some s.index }
      | none => asked
  else return asked

def beginPlay (d : Disk) (config : Config) (request : PlayRequest) : Except Failure Play := do
  let (address, registry) ← loadRegistry d request.registry
  let config := { config with
    seed := request.seed.or config.seed
    log := if request.debug then .verbose else config.log }
  let options ← sessionOptions d address request
  return ⟨address, request.save, .start registry config options⟩

inductive Begun where
  | done (result : Result)
  | play (play : Play)

/-- A configuration that cannot be loaded comes before all other failures. The seed is taken where
no other one is given. -/
def perform (d : Disk) (seed : Option Nat) (i : Invocation) : Except Failure Begun := do
  let config ← loadConfig d i.config
  let config := { config with seed := config.seed.or seed }
  match i.command with
  | .play request => return .play (← beginPlay d config request)
  | .check path json =>
    let (_, registry) ← loadRegistry d path
    return .done (check registry path json)
  | .dump path start seed =>
    let (_, registry) ← loadRegistry d path
    return .done (dump registry { config with seed := seed.or config.seed } start)

def begin (d : Disk) (seed : Option Nat) (arguments : List String) : Begun :=
  match Invocation.ofArguments arguments with
  | .error .misuse => .done { exit := .misuse }
  | .error (.help topic) => .done { output := topic.text }
  | .error .version => .done { output := versionText }
  | .ok i =>
    match perform d seed i with
    | .ok begun => begun
    | .error f => .done (.fail f)

def savedLine (s : Snapshot) : String :=
  "Saved cursor at " ++ s.timelineKey.getD "-" ++ s!"#{s.index}\n"

/-- Keep the place that was left, or forget it once the ending was reached. -/
def keepPlace (d : Disk) (a : Address) : Session.Outcome → Result × Disk
  | .quit snapshot =>
    match a.repository.saveSnapshot d a.name snapshot with
    | (.ok (), d) => ({ output := savedLine snapshot }, d)
    | (.error e, d) => (.fail (.ofChain e.chain), d)
  | .ending =>
    match a.repository.deleteSnapshot d a.name with
    | .ok d => ({}, d)
    | .error (.noSnapshot _) => ({}, d)
    | .error e => (.fail (.ofChain e.chain), d)
  | _ => ({}, d)

def sessionFailure : Session.Failure → Exit
  | .clock => .clockOverflow
  | .load e => .failure (.ofChain e.chain)
  | e => .failure ⟨e.message, []⟩

/-- What is left to do when a session is over; its own output is not told again. -/
def conclude (d : Disk) (p : Play) : Result × Disk :=
  match p.session.result? with
  | none => ({}, d)
  | some (.error e) => ({ exit := sessionFailure e }, d)
  | some (.ok outcome) => if p.save then keepPlace d p.address outcome else ({}, d)

def Command.registry : Command → String
  | .play request => request.registry
  | .check registry _ => registry
  | .dump registry _ _ => registry

/-- The files that a run may look at or change. -/
def Invocation.files (i : Invocation) : List String :=
  i.config.toList ++
    match Address.ofPath i.command.registry with
    | .ok a => [a.repository.registryPath a.name, a.repository.snapshotPath a.name]
    | .error _ => []

/-- A run on a disk, in which time passes only while lines are shown. -/
def run (d : Disk) (arguments : List String) (input : ByteArray) : Result × Disk :=
  match begin d none arguments with
  | .done result => (result, d)
  | .play p =>
    let (output, session) := (p.session.play (Session.Line.ofInput input)).takeOutput
    let (result, d) := conclude d { p with session }
    ({ result with output := output ++ result.output }, d)

end VisualNovel.CommandLine
