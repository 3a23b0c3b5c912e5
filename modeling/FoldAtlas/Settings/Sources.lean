import FoldAtlas.Failure
import FoldAtlas.FilePath
import FoldAtlas.Settings.Basic
import FoldAtlas.Text.Blank
import FoldAtlas.Toml.Document

/-!
# Sources of settings

Settings come from a file of the user, a file of the project and the
environment. The file of the project is laid over that of the user key by key,
what neither sets keeps its standard value, and the environment has the last
word. The first source that cannot be used decides how loading fails.
-/

namespace FoldAtlas

/-- The variables of an environment. -/
abbrev Environment := List (String × String)

/-- A file that may hold settings. -/
structure SettingsFile where
  /-- Its path as messages name it. -/
  path : String
  /-- What reading it gives, if it is there. -/
  content : Option (Except StreamFault Bytes)

namespace SettingsFile

/-- How a message says that a file is no settings document. -/
def malformedText : String := "TOML parse error"

/-- The entries of a file. A file that is not there has none. -/
def entries (file : SettingsFile) (origin : SettingsOrigin) :
    Except SettingsFailure Toml.Entries :=
  match file.content with
  | none => .ok []
  | some (.error fault) => .error (.stream fault)
  | some (.ok bytes) =>
    match Bytes.text? bytes with
    | none => .error (.stream .invalidData)
    | some text =>
      match Toml.read? text with
      | none => .error (.unreadable origin (file.path ++ ": " ++ malformedText))
      | some entries => .ok entries

end SettingsFile

namespace PayloadRule

/-- In a settings document an empty table and an empty array are empty. -/
def toml : PayloadRule where
  isEmpty
    | .object [] | .array [] => true
    | _ => false

end PayloadRule

namespace Settings

/-- How a message says what is wrong with the files taken together. Of a number
without a finite value it gives a zero (`Toml.Real.toBinary64`). -/
def mismatchText (error : DecodeError) : String :=
  error.message ++ "\n" ++
    (if error.path = [] then ""
    else "in " ++ DecodeError.ticked (".".intercalate error.path) ++ "\n")

/-- The settings of a table. -/
def ofEntries (entries : Toml.Entries) : Except SettingsFailure Settings :=
  match (codecWith .toml).decode (Toml.table entries).toJson with
  | .error error => .error (.unreadable .merged (mismatchText error))
  | .ok settings => .ok settings

/-- The variable that names the program of the server. -/
def serverVariable : String := "SYMFOLD_SERVER"

/-- The variable that sets the limit of a call. -/
def timeoutVariable : String := "SYMFOLD_LSP_TIMEOUT"

/-- The variable that sets the form of the report. -/
def formatVariable : String := "SYMFOLD_OUTPUT_FORMAT"

/-- Let the environment name the program of the server. A blank name counts as
none. -/
def withServerOf (environment : Environment) (settings : Settings) : Settings :=
  match List.lookup serverVariable environment with
  | none => settings
  | some name =>
    if trim name.toList = [] then settings
    else { settings with server := { settings.server with command := some name } }

/-- Let the environment set the limit of a call. -/
def withTimeoutOf (environment : Environment) (settings : Settings) :
    Except SettingsFailure Settings :=
  match List.lookup timeoutVariable environment with
  | none => .ok settings
  | some value =>
    match unsigned64? (trim value.toList) with
    | none =>
      .error (.invalidValue timeoutVariable ("'" ++ value ++ "' is not a number of seconds"))
    | some seconds =>
      .ok { settings with session := { settings.session with timeoutSeconds := seconds } }

/-- The form of a report with a name, in which the case of ASCII letters does not
matter. -/
def formatOfName? (name : String) : Option ReportFormat :=
  List.lookup (String.ofList (name.toList.map Char.toLower)) ReportFormat.table

/-- Let the environment set the form of the report. -/
def withFormatOf (environment : Environment) (settings : Settings) :
    Except SettingsFailure Settings :=
  match List.lookup formatVariable environment with
  | none => .ok settings
  | some value =>
    match formatOfName? value with
    | none =>
      .error (.invalidValue formatVariable ("'" ++ value ++ "' is not one of text, json"))
    | some format => .ok { settings with output := { settings.output with format } }

/-- Let the environment have the last word. -/
def withEnvironment (environment : Environment) (settings : Settings) :
    Except SettingsFailure Settings :=
  match (settings.withServerOf environment).withTimeoutOf environment with
  | .error failure => .error failure
  | .ok settings => settings.withFormatOf environment

/-- Load settings. -/
def ofSources (global project : SettingsFile) (environment : Environment) :
    Except SettingsFailure Settings :=
  match global.entries .global with
  | .error failure => .error failure
  | .ok base =>
    match project.entries .project with
    | .error failure => .error failure
    | .ok overlay =>
      match ofEntries (Toml.overlayEntries base overlay) with
      | .error failure => .error failure
      | .ok settings => settings.withEnvironment environment

/-- The path of the file of the project under the root of the work. -/
def projectPath (root : FilePath) : FilePath :=
  FilePath.within (Bytes.ofText ".symfold/config.toml") root

/-- The variable that names the directory of settings. -/
def directoryVariable : String := "XDG_CONFIG_HOME"

/-- The path of the file of the user: in the directory of settings that the
environment names, even an empty one, or else in the one of the home directory,
or else in the current one. -/
def globalPath (directory home : Option FilePath) : FilePath :=
  let base := match directory, home with
    | some directory, _ => directory
    | none, some home => FilePath.within (Bytes.ofText ".config") home
    | none, none => [FilePath.stop]
  FilePath.within (Bytes.ofText "symfold/config.toml") base

end Settings

end FoldAtlas
