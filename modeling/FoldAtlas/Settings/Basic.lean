import FoldAtlas.Report
import FoldAtlas.Language

/-!
# Settings

Everything that can be set: which server to start, how long to wait for it, how
to pair symbols with regions, and how to show the result. Each section and each
entry may be left out of a settings document.
-/

namespace FoldAtlas

/-- Which server to start. -/
structure ServerChoice where
  /-- The program; the language decides when there is none. -/
  command : Option String
  /-- The arguments of the program. -/
  args : List String
  /-- The identifier of the language, if the server wants another one. -/
  languageId : Option String
deriving DecidableEq, Repr, Inhabited

/-- How long to wait for a server. -/
structure SessionSettings where
  /-- How many seconds a call may take; zero sets no limit. -/
  timeoutSeconds : UInt64
  /-- How many seconds the end of the session may take. -/
  shutdownTimeoutSeconds : UInt64
  /-- Whether the server is asked to end before it is told to. -/
  gracefulShutdown : Bool
deriving DecidableEq, Repr, Inhabited

/-- How to show the result. -/
structure ReportSettings where
  /-- The form of the report. -/
  format : ReportFormat
deriving DecidableEq, Repr, Inhabited

/-- Everything that can be set. -/
structure Settings where
  /-- Which server to start. -/
  server : ServerChoice
  /-- How long to wait for it. -/
  session : SessionSettings
  /-- How to pair symbols with regions. -/
  pairing : PairingRule
  /-- How to show the result. -/
  output : ReportSettings
deriving DecidableEq, Repr

namespace ServerChoice

/-- No choice of a server. -/
def standard : ServerChoice := ⟨none, [], none⟩

/-- The members of the section. An array must reach the members that may be
`null`. -/
def fields := Fields.cons (.nullable "command" .text)
  (.cons (.defaulted "args" (Codec.text.list) []) (.cons (.nullable "language_id" .text) .nil))

/-- Reading and writing the section. -/
def codec : Codec ServerChoice :=
  fields.codec "ServerSettings" (fun (command, args, id, ()) => ⟨command, args, id⟩)
    (fun settings => (settings.command, settings.args, settings.languageId, ()))

end ServerChoice

namespace SessionSettings

/-- Half a minute for a call and five seconds for the end. -/
def standard : SessionSettings := ⟨30, 5, true⟩

/-- The members of the section. -/
def fields :=
  Fields.cons (.defaulted "timeout_secs" .unsigned64 standard.timeoutSeconds)
    (.cons (.defaulted "shutdown_timeout_secs" .unsigned64 standard.shutdownTimeoutSeconds)
      (.cons (.defaulted "graceful_shutdown" .flag standard.gracefulShutdown) .nil))

/-- Reading and writing the section. -/
def codec : Codec SessionSettings :=
  fields.codec "LspConfig"
    (fun (timeout, shutdown, graceful, ()) => ⟨timeout, shutdown, graceful⟩)
    (fun settings => (settings.timeoutSeconds, settings.shutdownTimeoutSeconds,
      settings.gracefulShutdown, ()))

end SessionSettings

namespace ReportSettings

/-- Lines of text. -/
def standard : ReportSettings := ⟨.text⟩

/-- The members of the section. -/
def fields (rule : PayloadRule) :=
  Fields.cons (.defaulted "format" (ReportFormat.codecWith rule) standard.format) .nil

/-- Reading and writing the section. -/
def codecWith (rule : PayloadRule) : Codec ReportSettings :=
  (fields rule).codec "OutputConfig" (fun (format, ()) => ⟨format⟩)
    (fun settings => (settings.format, ()))

end ReportSettings

namespace Settings

/-- The settings when nothing is set. -/
def standard : Settings := ⟨.standard, .standard, .standard, .standard⟩

/-- The sections of the settings. -/
def fields (rule : PayloadRule) :=
  Fields.cons (.defaulted "server" ServerChoice.codec .standard)
    (.cons (.defaulted "lsp" SessionSettings.codec .standard)
      (.cons (.defaulted "correlation" (PairingRule.codecWith rule) .standard)
        (.cons (.defaulted "output" (ReportSettings.codecWith rule) .standard) .nil)))

/-- Reading and writing settings. -/
def codecWith (rule : PayloadRule) : Codec Settings :=
  (fields rule).codec "SymfoldConfig"
    (fun (server, session, pairing, output, ()) => ⟨server, session, pairing, output⟩)
    (fun settings => (settings.server, settings.session, settings.pairing,
      settings.output, ()))

/-- Reading and writing settings in a JSON document. -/
def codec : Codec Settings := codecWith .json

end Settings

instance : Inhabited Settings := ⟨.standard⟩

/-- How the server for a document is started and which language it is told. -/
structure ServerLaunch where
  /-- The program. -/
  command : String
  /-- Its arguments. -/
  args : List String
  /-- The identifier of the language. -/
  languageId : String
deriving DecidableEq, Repr, Inhabited

namespace ServerLaunch

/-- The server for a language under some settings. The arguments in the settings
belong to the program in the settings and are not given to another one. -/
def choose (settings : Settings) (language : Language) : ServerLaunch :=
  let (command, args) := match settings.server.command with
    | some command => (command, settings.server.args)
    | none => language.server
  ⟨command, args, settings.server.languageId.getD language.id⟩

end ServerLaunch

end FoldAtlas
