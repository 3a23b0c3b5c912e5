import FoldAtlas.Settings.Basic

/-!
# Command lines

What a command line can say, and how it takes precedence over the settings: an
option that is given replaces the setting of the same name. The arguments of a
server belong to its program, so naming a program also replaces the arguments,
even by none.
-/

namespace FoldAtlas

/-- What a command line says. -/
structure CommandLine where
  /-- The file to analyse. -/
  file : Option String
  /-- The program of the server. -/
  server : Option String
  /-- The arguments of the server. -/
  serverArgs : List String
  /-- The identifier of the language. -/
  languageId : Option String
  /-- How many seconds a call may take. -/
  timeout : Option UInt64
  /-- The form of the report. -/
  format : Option ReportFormat
  /-- Whether the log is wanted in detail. -/
  verbose : Bool
deriving DecidableEq, Repr, Inhabited

namespace CommandLine

/-- The command line that says nothing. -/
def empty : CommandLine := ⟨none, none, [], none, none, none, false⟩

/-- What a command line makes of the choice of a server. -/
def overrideServer (line : CommandLine) (server : ServerChoice) : ServerChoice where
  command := line.server.or server.command
  args :=
    if line.server.isSome ∨ line.serverArgs ≠ [] then line.serverArgs else server.args
  languageId := line.languageId.or server.languageId

/-- What a command line makes of settings. -/
def override (line : CommandLine) (settings : Settings) : Settings where
  server := line.overrideServer settings.server
  session :=
    { settings.session with
      timeoutSeconds := line.timeout.getD settings.session.timeoutSeconds }
  pairing := settings.pairing
  output := { settings.output with format := line.format.getD settings.output.format }

end CommandLine

end FoldAtlas
