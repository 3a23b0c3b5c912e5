import FoldAtlas.Frame.Basic
import FoldAtlas.Json.Codec
import FoldAtlas.Json.Complaint
import FoldAtlas.Json.Reader

/-!
# Failures

Everything that can go wrong between reading the settings and printing a
report, as causes. `Failure` is what a session with a language server can meet,
`SettingsFailure` what the settings can, and `ProgramFailure` joins them with
the file system. Each has one wording and one code, and nothing else in the
library writes an error text.
-/

namespace FoldAtlas

/-- The kinds of trouble that a stream or file can give. -/
inductive StreamFault where
  /-- Nobody reads what is written. -/
  | brokenPipe
  /-- There is no such file. -/
  | notFound
  /-- A directory stands where a file is wanted. -/
  | isADirectory
  /-- A file stands where a directory is wanted. -/
  | notADirectory
  /-- The file may not be used like this. -/
  | permissionDenied
  /-- A name, or a path as a whole, is longer than the system takes. -/
  | nameTooLong
  /-- A path holds a NUL byte. -/
  | nulInPath
  /-- A command or one of its arguments holds a NUL byte. -/
  | nulInCommand
  /-- A file that must be text is not UTF-8. -/
  | invalidData
  /-- Any other trouble, with its own wording. -/
  | other (text : String)
deriving DecidableEq, Repr

namespace StreamFault

/-- The name of the kind. -/
def kind : StreamFault → String
  | .brokenPipe => "BrokenPipe"
  | .notFound => "NotFound"
  | .isADirectory => "IsADirectory"
  | .notADirectory => "NotADirectory"
  | .permissionDenied => "PermissionDenied"
  | .nameTooLong => "InvalidFilename"
  | .nulInPath | .nulInCommand => "InvalidInput"
  | .invalidData => "InvalidData"
  | .other _ => "Other"

/-- The wording. -/
def message : StreamFault → String
  | .brokenPipe => "Broken pipe (os error 32)"
  | .notFound => "No such file or directory (os error 2)"
  | .isADirectory => "Is a directory (os error 21)"
  | .notADirectory => "Not a directory (os error 20)"
  | .permissionDenied => "Permission denied (os error 13)"
  | .nameTooLong => "File name too long (os error 36)"
  | .nulInPath => "file name contained an unexpected NUL byte"
  | .nulInCommand => "nul byte found in provided data"
  | .invalidData => "stream did not contain valid UTF-8"
  | .other text => text

end StreamFault

/-- Why some bytes are not the JSON that is wanted. -/
inductive JsonFault where
  /-- They are no document. -/
  | unreadable (refusal : Json.Refusal)
  /-- They are a document of another shape. -/
  | mismatch (error : DecodeError)
  /-- Any other trouble, with a complaint of its own. -/
  | other (complaint : Complaint)
deriving DecidableEq, Repr

namespace JsonFault

/-- The wording. -/
def message : JsonFault → String
  | .unreadable .malformed => "malformed JSON text"
  | .unreadable .truncated => "the JSON text ends too early"
  | .mismatch error => error.message
  | .other complaint => complaint.message

end JsonFault

/-- The state of the one document session that a client runs. -/
inductive Lifecycle where
  /-- Nothing has been sent. -/
  | uninitialized
  /-- The greeting is under way. -/
  | initializing
  /-- The greeting is over. -/
  | ready
  /-- The document has been announced. -/
  | documentOpen
  /-- The session is being ended. -/
  | shuttingDown
  /-- The session is over. -/
  | closed
deriving DecidableEq, Repr, Inhabited

namespace Lifecycle

/-- The name of a state. -/
def name : Lifecycle → String
  | .uninitialized => "Uninitialized"
  | .initializing => "Initializing"
  | .ready => "Ready"
  | .documentOpen => "DocumentOpen"
  | .shuttingDown => "ShuttingDown"
  | .closed => "Closed"

/-- The states with their names. -/
def all : List Lifecycle :=
  [.uninitialized, .initializing, .ready, .documentOpen, .shuttingDown, .closed]

/-- The state with a name. -/
def ofName? (name : String) : Option Lifecycle :=
  all.find? fun state => state.name == name

end Lifecycle

/-- What can go wrong in a session with a language server. -/
inductive Failure where
  /-- The server did not start. -/
  | serverStart (reason : String)
  /-- The server's stream is not made of frames. -/
  | framing (reason : String)
  /-- The server answered with an error. -/
  | rpc (code : Int32) (message : String)
  /-- The server's answer is not what the protocol promises. -/
  | protocol (reason : String)
  /-- The session is over. -/
  | sessionClosed
  /-- An operation was called in a state that does not admit it. -/
  | invalidState (operation : String) (state : Lifecycle)
  /-- The server did not answer in time. -/
  | timeout (text : String)
  /-- A stream or file gave trouble. -/
  | stream (fault : StreamFault)
  /-- A payload is not the JSON that is wanted. -/
  | json (fault : JsonFault)
deriving DecidableEq, Repr

namespace Failure

/-- The code of errors in the framing. -/
def parseErrorCode : Int32 := -32700

/-- The code of answers that break the protocol. -/
def invalidRequestCode : Int32 := -32600

/-- The code of operations called in the wrong state. -/
def notInitializedCode : Int32 := -32002

/-- The code of calls that were not answered in time. -/
def timeoutCode : Int32 := -32001

/-- The code of a session that is over. -/
def sessionClosedCode : Int32 := -32099

/-- The code of everything that went wrong on this side. -/
def clientCode : Int32 := -32000

/-- The code of a failure. A server's error keeps its own. -/
def code : Failure → Int32
  | .rpc code _ => code
  | .framing _ => parseErrorCode
  | .protocol _ => invalidRequestCode
  | .sessionClosed => sessionClosedCode
  | .invalidState _ _ => notInitializedCode
  | .timeout _ => timeoutCode
  | .serverStart _ | .stream _ | .json _ => clientCode

/-- The wording of a failure. -/
def message : Failure → String
  | .serverStart reason => "Failed to start server: " ++ reason
  | .framing reason => "Framing error: " ++ reason
  | .rpc code message => "Server error [" ++ toString code ++ "]: " ++ message
  | .protocol reason => "Protocol error: " ++ reason
  | .sessionClosed => "Session closed"
  | .invalidState operation state =>
    "'" ++ operation ++ "' is not valid in state " ++ state.name
  | .timeout text => text
  | .stream fault => fault.message
  | .json fault => fault.message

end Failure

/-- Where settings come from. -/
inductive SettingsOrigin where
  /-- The file of the user. -/
  | global
  /-- The file of the project. -/
  | project
  /-- The two files, one laid over the other. -/
  | merged
deriving DecidableEq, Repr, Inhabited

namespace SettingsOrigin

/-- The name of an origin. -/
def name : SettingsOrigin → String
  | .global => "global"
  | .project => "project"
  | .merged => "merged"

end SettingsOrigin

/-- What can go wrong with the settings. -/
inductive SettingsFailure where
  /-- A file is no settings document, or both together have the wrong shape. -/
  | unreadable (origin : SettingsOrigin) (reason : String)
  /-- A variable holds a value that it cannot have. -/
  | invalidValue (key message : String)
  /-- A file gave trouble. -/
  | stream (fault : StreamFault)
deriving DecidableEq, Repr

namespace SettingsFailure

/-- The wording of a failure. -/
def message : SettingsFailure → String
  | .unreadable _ reason => "Config parse error: " ++ reason
  | .invalidValue key message => "Invalid value for '" ++ key ++ "': " ++ message
  | .stream fault => fault.message

end SettingsFailure

/-- What can end the program without a report. -/
inductive ProgramFailure where
  /-- The session failed. -/
  | session (failure : Failure)
  /-- The settings could not be had. -/
  | settings (failure : SettingsFailure)
  /-- A file gave trouble. -/
  | stream (fault : StreamFault)
deriving DecidableEq, Repr

namespace ProgramFailure

/-- The code of a failure. -/
def code : ProgramFailure → Int32
  | .session failure => failure.code
  | .settings _ | .stream _ => Failure.clientCode

/-- The wording of a failure. -/
def message : ProgramFailure → String
  | .session failure => failure.message
  | .settings failure => failure.message
  | .stream fault => fault.message

/-- The wording of a failure with everything it goes back to. A failure of the
session or of the settings goes back to a cause of the same wording. -/
def chain : ProgramFailure → List String
  | .session failure => [failure.message, failure.message]
  | .settings failure => [failure.message, failure.message]
  | .stream fault => [fault.message]

end ProgramFailure

end FoldAtlas
