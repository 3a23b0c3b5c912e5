import FoldAtlas.Program.Basic

/-!
# The command line

The outermost layer: it looks at the machine, hands what it has seen to
`Program.run`, prints what that concludes and exits with its code. Nothing is
decided here. A machine that offers no way to start programs is a host on which
every visit fails for that reason.
-/

namespace FoldAtlas.Machine

/-- What is known of a path: where it leads, and what is there. -/
structure Sight where
  /-- The path without detours. -/
  canonical : Except StreamFault FilePath
  /-- The content of the file. -/
  content : Except StreamFault Bytes

/-- The trouble that an error of the system stands for. -/
def faultOf : IO.Error → StreamFault
  | .noFileOrDirectory _ _ _ => .notFound
  | .permissionDenied _ _ _ => .permissionDenied
  | .inappropriateType _ 20 _ => .notADirectory
  | .inappropriateType _ 21 _ => .isADirectory
  | .invalidArgument _ 36 _ => .nameTooLong
  | error => .other (toString error)

/-- Try something that may meet trouble. -/
def attempt {α : Type} (action : IO α) : IO (Except StreamFault α) := do
  try
    return .ok (← action)
  catch error =>
    return .error (faultOf error)

/-- Look at a path. -/
def look (path : FilePath) : IO Sight := do
  let name := Bytes.lossyText path
  let canonical ← attempt (IO.FS.realPath name)
  let content ← attempt (IO.FS.readBinFile name)
  return ⟨canonical.map fun found => Bytes.ofText found.toString,
    content.map fun bytes => bytes.toList⟩

/-- The variables that can matter. -/
def watchedVariables : List String :=
  [Host.homeVariable, Settings.directoryVariable, Settings.serverVariable,
    Settings.timeoutVariable, Settings.formatVariable]

/-- The variables that can matter, as far as they are set. -/
def environment : IO Environment :=
  watchedVariables.filterMapM fun name => do
    return (← IO.getEnv name).map (name, ·)

/-- Why no server can be started. -/
def noPrograms : StreamFault := .other "Operation not supported (os error 95)"

/-- The machine as a host, as far as some paths have been looked at. -/
def hostOf (directory : FilePath) (environment : Environment)
    (sights : List (FilePath × Sight)) : Host where
  directory := directory
  environment := environment
  canonical path := ((List.lookup path sights).map Sight.canonical).getD (.error .notFound)
  content path := ((List.lookup path sights).map Sight.content).getD (.error .notFound)
  visit visit := .failed (.session (.serverStart
    (visit.server.command ++ ": " ++ noPrograms.message)))

/-- The paths that a run can ask for: the files of settings, and the file to
analyse, both as it is named and without detours. -/
def pathsOf (host : Host) (arguments : List String) : List FilePath :=
  host.globalSettingsPath :: Settings.projectPath host.directory ::
    match CommandLine.read arguments with
    | .ok line => line.file.toList.map Bytes.ofText
    | .error _ => []

/-- Look at everything that a run can ask for. -/
def observe (arguments : List String) : IO Host := do
  let directory := Bytes.ofText (← IO.currentDir).toString
  let environment ← environment
  let paths := pathsOf (hostOf directory environment []) arguments
  let sights ← paths.mapM fun path => do return (path, ← look path)
  let resolved := sights.filterMap fun (_, sight) => sight.canonical.toOption
  let further ← resolved.mapM fun path => do return (path, ← look path)
  return hostOf directory environment (sights ++ further)

end FoldAtlas.Machine

/-- Run the program on the arguments behind its name. -/
def main (arguments : List String) : IO UInt32 := do
  let conclusion := FoldAtlas.Program.run (← FoldAtlas.Machine.observe arguments) arguments
  IO.print conclusion.output
  IO.eprint conclusion.complaint
  return UInt32.ofNat conclusion.exitCode
