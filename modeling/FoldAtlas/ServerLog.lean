import FoldAtlas.Json.Record

/-!
# Log messages of a server

A server may send text for its user's eyes at any time, with a level from 1 to
5 that says how urgent it is.
-/

namespace FoldAtlas

/-- How urgent a log message is. -/
inductive LogLevel where
  | error
  | warning
  | info
  | log
  | debug
deriving DecidableEq, Repr, Inhabited

namespace LogLevel

/-- The levels in the order of their numbers, the first of which is 1. -/
def all : List LogLevel := [.error, .warning, .info, .log, .debug]

/-- The name of a level. -/
def name : LogLevel → String
  | .error => "Error"
  | .warning => "Warning"
  | .info => "Info"
  | .log => "Log"
  | .debug => "Debug"

/-- The number of a level. -/
def code : LogLevel → Nat
  | .error => 1
  | .warning => 2
  | .info => 3
  | .log => 4
  | .debug => 5

/-- Reading and writing a level as its number. -/
def codec : Codec LogLevel where
  decode source :=
    match Codec.unsigned8.decode source with
    | .error mismatch => .error mismatch
    | .ok code =>
      match all.find? fun level => level.code == code.toNat with
      | some level => .ok level
      | none => .error (.unknownCode code.toNat (all.map LogLevel.code))
  encode level := .natural level.code

end LogLevel

/-- A log message. -/
structure LogMessage where
  /-- How urgent it is. -/
  level : LogLevel
  /-- The text. -/
  message : String
deriving DecidableEq, Repr, Inhabited

namespace LogMessage

/-- The members of a log message. -/
def fields := Fields.cons (.required "type" LogLevel.codec)
  (.cons (.required "message" .text) .nil)

/-- Reading and writing a log message. -/
def codec : Codec LogMessage :=
  fields.codec "LogMessageParams" (fun (level, message, ()) => ⟨level, message⟩)
    (fun log => (log.level, log.message, ()))

end LogMessage

end FoldAtlas
