import FoldAtlas.FileTree
import FoldAtlas.Program.Basic
import FoldAtlas.Rehearsal.Server

/-!
# Sceneries

A scenery is a host for the program that is made up: a file tree, variables, and
programs that all behave like one pretended server. It says which program a
command starts, and what comes of a visit to it.
-/

namespace FoldAtlas

/-- A host that is made up. -/
structure Scenery where
  /-- The files. -/
  tree : FileTree
  /-- The working directory. -/
  directory : FilePath
  /-- The variables. -/
  environment : Environment
  /-- The places of the programs. -/
  programs : List Place
  /-- The folders in which programs are looked for by name. -/
  searchPath : List FilePath
  /-- What every program does upon requests. -/
  replies : List (String × PretendedReply)
deriving Repr

/-- What comes of a visit to a pretended server. -/
structure VisitOutcome where
  /-- How the visit ends. -/
  ending : VisitEnding
  /-- What the server has noted, if it was started. -/
  records : List ServerRecord
deriving Repr

namespace Scenery

/-- The program at a path as seen from a folder. A file or folder that is no
program may not be started. -/
def programAt (scenery : Scenery) (path folder : FilePath) : Except StreamFault Place :=
  match scenery.tree.locate path folder with
  | .error fault => .error fault
  | .ok place =>
    if scenery.programs.contains place then .ok place else .error .permissionDenied

/-- The first program with a name in some folders. Something that may not be
started counts only if there is no program at all. -/
def search (scenery : Scenery) (name : FilePath) :
    List FilePath → Except StreamFault Place
  | [] => .error .notFound
  | folder :: rest =>
    match scenery.programAt name folder with
    | .ok place => .ok place
    | .error .permissionDenied =>
      match search scenery name rest with
      | .ok place => .ok place
      | .error _ => .error .permissionDenied
    | .error _ => search scenery name rest

/-- The program that a launch starts in a folder. A command that is no path is a
name, and is looked for only if some file could have it. -/
def programOf (scenery : Scenery) (launch : ServerLaunch) (folder : FilePath) :
    Except StreamFault Place :=
  let path := Bytes.ofText launch.command
  if (launch.command :: launch.args).any fun text =>
      (Bytes.ofText text).contains FilePath.nul then .error .nulInCommand
  else if path = [] then .error .notFound
  else if path.contains FilePath.separator then
    if FilePath.maxLength < path.length then .error .nameTooLong
    else scenery.programAt path folder
  else if FilePath.maxNameLength < path.length then .error .nameTooLong
  else scenery.search path scenery.searchPath

/-- The number of the process of a client that is made up. -/
def processId : Nat := 1

/-- The client of a visit. -/
def clientOf (scenery : Scenery) (visit : Visit) : Client :=
  .start visit.limits (Uri.ofPath visit.root scenery.directory) processId .held

/-- What the analysis that a performance began with has come to. -/
def analysisEnding (performance : Performance) : VisitEnding :=
  match performance.rehearsal.jobs.head? with
  | some (.over (.returned (.report report))) => .reported report
  | some (.over (.failed failure)) => .failed (.session failure)
  | _ => .brokeDown

/-- Play a visit to the program at a place. The session is ended whatever the
analysis comes to, unless it breaks down. -/
def playVisit (scenery : Scenery) (visit : Visit) (place : Place) : VisitOutcome :=
  let name := Bytes.lossyText (place.getLast?.getD [])
  let opening : Performance :=
    ⟨.start (scenery.clientOf visit), .start scenery.replies name visit.server.args, 0⟩
  let played := opening.playJob (.analysis visit.subject .start)
  match analysisEnding played with
  | .brokeDown => ⟨.brokeDown, played.server.records⟩
  | ending => ⟨ending, (played.playJob (.operation (.finish .begun))).server.records⟩

/-- A visit to the server that a command starts. -/
def visit (scenery : Scenery) (visit : Visit) : VisitOutcome :=
  match scenery.programOf visit.server visit.root with
  | .error fault =>
    ⟨.failed (.session (.serverStart (visit.server.command ++ ": " ++ fault.message))), []⟩
  | .ok place => scenery.playVisit visit place

/-- The scenery as a host. -/
def host (scenery : Scenery) : Host where
  directory := scenery.directory
  environment := scenery.environment
  canonical path :=
    (scenery.tree.locate path scenery.directory).map FilePath.ofComponents
  content path :=
    match scenery.tree.locate path scenery.directory with
    | .error fault => .error fault
    | .ok place => scenery.tree.read place
  visit visit := (scenery.visit visit).ending

/-- What the server notes when a file is analysed under some settings. -/
def recordsOf (scenery : Scenery) (settings : Settings) (file : FilePath) :
    List ServerRecord :=
  match scenery.host.planVisit settings file with
  | .error _ => []
  | .ok visit => (scenery.visit visit).records

/-- What the server notes when the program runs. -/
def recordsOfRun (scenery : Scenery) (arguments : List String) : List ServerRecord :=
  match CommandLine.read arguments, scenery.host.settings with
  | .ok line, .ok loaded =>
    match line.file with
    | none => []
    | some file => scenery.recordsOf (line.override loaded) (Bytes.ofText file)
  | _, _ => []

end Scenery

end FoldAtlas
