import FoldAtlas.Analysis
import FoldAtlas.CommandLine.Reader
import FoldAtlas.Settings.Sources
import FoldAtlas.Uri

/-!
# The program

What the program makes of a command line. It loads the settings, lets the
command line override them, looks at the file, has a server analyse it, and
concludes with what is printed and an exit code. Everything outside the program
stands in a `Host`, so a run is a function of its arguments and its host.
-/

namespace FoldAtlas

/-- A visit to a server: everything that an analysis needs. -/
structure Visit where
  /-- How the server is started. -/
  server : ServerLaunch
  /-- The directory of the work. -/
  root : FilePath
  /-- What the analysis is about. -/
  subject : AnalysisSubject
  /-- How long calls may take. -/
  limits : Limits
deriving Repr

/-- How the analysis of a file ends. -/
inductive VisitEnding where
  /-- With a report. -/
  | reported (report : Findings)
  /-- With a failure. -/
  | failed (failure : ProgramFailure)
  /-- Not at all: the analysis breaks down. -/
  | brokeDown
deriving Repr

/-- What the program finds outside. -/
structure Host where
  /-- The working directory. -/
  directory : FilePath
  /-- The variables. -/
  environment : Environment
  /-- The path of a file or folder without detours. -/
  canonical : FilePath → Except StreamFault FilePath
  /-- The content of a file. -/
  content : FilePath → Except StreamFault Bytes
  /-- A visit to a server. -/
  visit : Visit → VisitEnding

namespace Host

/-- A file that may hold settings. A path that leads nowhere is no file. -/
def settingsFile (host : Host) (path : FilePath) : SettingsFile where
  path := Bytes.lossyText path
  content :=
    match host.canonical path with
    | .error _ => none
    | .ok _ => some (host.content path)

/-- The value of a variable as a path. -/
def pathVariable? (host : Host) (name : String) : Option FilePath :=
  (List.lookup name host.environment).map Bytes.ofText

/-- The variable that names the home directory. -/
def homeVariable : String := "HOME"

/-- The path of the user's file of settings. -/
def globalSettingsPath (host : Host) : FilePath :=
  Settings.globalPath (host.pathVariable? Settings.directoryVariable)
    (host.pathVariable? homeVariable)

/-- The settings before the command line has its say. -/
def settings (host : Host) : Except SettingsFailure Settings :=
  Settings.ofSources (host.settingsFile host.globalSettingsPath)
    (host.settingsFile (Settings.projectPath host.directory)) host.environment

/-- The folder that holds the file at a path without detours. -/
def folderOf (path : FilePath) : FilePath :=
  FilePath.ofComponents (FilePath.components path).dropLast

/-- The visit to a server that is due for a file. Bytes of the file that are not
text are replaced. -/
def planVisit (host : Host) (settings : Settings) (file : FilePath) :
    Except StreamFault Visit :=
  match host.canonical file with
  | .error fault => .error fault
  | .ok path =>
    match host.content path with
    | .error fault => .error fault
    | .ok content =>
      let server := ServerLaunch.choose settings (.ofPath path)
      .ok {
        server := server
        root := folderOf path
        subject := ⟨Uri.ofPath path host.directory, server.languageId,
          Bytes.lossyText content, settings.pairing⟩
        limits := .ofSettings settings }

/-- Analyse a file. -/
def analyse (host : Host) (settings : Settings) (file : FilePath) : VisitEnding :=
  match host.planVisit settings file with
  | .error fault => .failed (.stream fault)
  | .ok visit => host.visit visit

end Host

/-- What a run of the program comes to. -/
inductive Conclusion where
  /-- Help. -/
  | help
  | version
  /-- A command line that cannot be obeyed. -/
  | misused (error : CommandLineError)
  /-- A report. -/
  | reported (format : ReportFormat) (report : Findings)
  /-- A failure, with what was being done. -/
  | failed (format : ReportFormat) (context : String) (failure : ProgramFailure)
  /-- A run that broke down. -/
  | brokeDown
deriving Repr

namespace Conclusion

/-- The lines of the help text. -/
def helpLines : List String := [
  "Symbols and folding regions of a source file, as a language server sees them",
  "",
  "Usage: symfold [OPTIONS] [FILE]",
  "",
  "Arguments:",
  "  [FILE]  Source file to analyze",
  "",
  "Options:",
  "      --server <CMD>      Language server executable (default: by file extension)",
  "      --server-arg <ARG>  Argument passed to the language server (repeatable)",
  "      --language-id <ID>  Identifier of the language that the server is told",
  "      --timeout <SECS>    Seconds that a request may take (0 waits indefinitely)",
  "      --format <FORMAT>   Output format [possible values: text, json]",
  "  -v, --verbose           Verbose output",
  "  -h, --help              Print help",
  "  -V, --version           Print version"]

/-- The help text. -/
def helpText : String := String.join (helpLines.map (· ++ "\n"))

/-- The exit code. -/
def exitCode : Conclusion → Nat
  | .help | .version | .reported _ _ => 0
  | .misused error => error.exitCode
  | .failed _ _ _ => 2
  | .brokeDown => 101

/-- The wording of a failure: what was being done, then everything the failure
goes back to. -/
def failureText (context : String) (failure : ProgramFailure) : String :=
  ": ".intercalate (context :: failure.chain)

/-- What is printed. -/
def output : Conclusion → String
  | .help => helpText
  | .version => Greeting.clientName ++ " " ++ Greeting.clientVersion ++ "\n"
  | .reported format report => Report.render format report
  | .failed .json context failure =>
    (Report.errorDocument (failureText context failure) (some failure.code)).pretty ++ "\n"
  | .misused _ | .failed .text _ _ | .brokeDown => ""

/-- What is printed as a complaint. -/
def complaint : Conclusion → String
  | .misused error => "error: " ++ error.name ++ "\n"
  | .failed .text context failure => "error: " ++ failureText context failure ++ "\n"
  | .brokeDown => "a number left its range\n"
  | .help | .version | .reported _ _ | .failed .json _ _ => ""

end Conclusion

namespace Program

/-- What was being done when the settings could not be had. -/
def loadingContext : String := "Failed to load configuration"

/-- What a run comes to for a file. Until the settings are known, the command
line alone decides the form of a failure. -/
def runOn (host : Host) (line : CommandLine) (file : String) : Conclusion :=
  match host.settings with
  | .error failure =>
    .failed (line.format.getD ReportSettings.standard.format) loadingContext (.settings failure)
  | .ok loaded =>
    let settings := line.override loaded
    let format := settings.output.format
    match host.analyse settings (Bytes.ofText file) with
    | .reported report => .reported format report
    | .failed failure => .failed format file failure
    | .brokeDown => .brokeDown

/-- What a run of the program comes to. -/
def run (host : Host) (arguments : List String) : Conclusion :=
  match CommandLine.read arguments with
  | .error .displayHelp => .help
  | .error .displayVersion => .version
  | .error error => .misused error
  | .ok line =>
    match line.file with
    | none => .help
    | some file => runOn host line file

end Program

end FoldAtlas
