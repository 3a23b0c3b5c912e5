import FoldAtlas.CommandLine.Basic
import FoldAtlas.Text.Numeral

/-!
# Reading command lines

Arguments are read from left to right. An option takes its value from behind an
equals sign or from the next argument; switches take none; anything else is the
file. Behind `--` every argument is the file.

A value that is an argument of its own is checked only when the next known
option, the file or the end is reached. An argument that cannot stand where it
stands is reported at once and wins over a value that has not been checked yet.
-/

namespace FoldAtlas

/-- Why a command line is not obeyed. -/
inductive CommandLineError where
  /-- An argument that means nothing. -/
  | unknownArgument
  /-- A value is missing or none of the admitted ones. -/
  | invalidValue
  /-- A value is not of the wanted form. -/
  | valueValidation
  /-- An option is given twice. -/
  | argumentConflict
  /-- A switch is given a value. -/
  | tooManyValues
  /-- Help is wanted instead. -/
  | displayHelp
  /-- The version is wanted instead. -/
  | displayVersion
deriving DecidableEq, Repr, Inhabited

namespace CommandLineError

/-- The name of an error. -/
def name : CommandLineError → String
  | .unknownArgument => "UnknownArgument"
  | .invalidValue => "InvalidValue"
  | .valueValidation => "ValueValidation"
  | .argumentConflict => "ArgumentConflict"
  | .tooManyValues => "TooManyValues"
  | .displayHelp => "DisplayHelp"
  | .displayVersion => "DisplayVersion"

/-- The exit code of an error. Wanting something else is none. -/
def exitCode : CommandLineError → Nat
  | .displayHelp | .displayVersion => 0
  | _ => 2

end CommandLineError

/-- What takes a value. -/
inductive ValueSlot where
  | file
  | server
  | serverArg
  | languageId
  | timeout
  | format
deriving DecidableEq, Repr, Inhabited

namespace ValueSlot

/-- The options with values, by name. -/
def options : List (String × ValueSlot) :=
  [("server", .server), ("server-arg", .serverArg), ("language-id", .languageId),
    ("timeout", .timeout), ("format", .format)]

end ValueSlot

/-- What takes no value. -/
inductive CommandSwitch where
  | verbose
  | help
  | version
deriving DecidableEq, Repr, Inhabited

namespace CommandSwitch

/-- The switches by their long names. -/
def long : List (String × CommandSwitch) :=
  [("verbose", .verbose), ("help", .help), ("version", .version)]

/-- The switches by their letters. -/
def short : List (Char × CommandSwitch) :=
  [('v', .verbose), ('h', .help), ('V', .version)]

end CommandSwitch

namespace CommandLine

/-- A slot that holds nothing yet takes a value; one that does is in conflict. -/
def setOnce {α : Type} (old : Option α) (value : Except CommandLineError α) :
    Except CommandLineError (Option α) :=
  match old with
  | some _ => .error .argumentConflict
  | none => value.map some

/-- The value of the option for the limit. -/
def timeoutOf (value : String) : Except CommandLineError UInt64 :=
  match unsigned64? value.toList with
  | some seconds => .ok seconds
  | none => .error .valueValidation

/-- The value of the option for the form. -/
def formatOf (value : String) : Except CommandLineError ReportFormat :=
  match List.lookup value ReportFormat.table with
  | some format => .ok format
  | none => .error .invalidValue

/-- The name of the file, which cannot be empty. -/
def fileOf (value : String) : Except CommandLineError String :=
  if value = "" then .error .invalidValue else .ok value

/-- Fill a slot. -/
def fill (line : CommandLine) (value : String) :
    ValueSlot → Except CommandLineError CommandLine
  | .file => (setOnce line.file (fileOf value)).map fun file => { line with file }
  | .server => (setOnce line.server (.ok value)).map fun server => { line with server }
  | .serverArg => .ok { line with serverArgs := line.serverArgs ++ [value] }
  | .languageId =>
    (setOnce line.languageId (.ok value)).map fun languageId => { line with languageId }
  | .timeout =>
    (setOnce line.timeout (timeoutOf value)).map fun timeout => { line with timeout }
  | .format => (setOnce line.format (formatOf value)).map fun format => { line with format }

/-- Obey a switch. -/
def turnOn (line : CommandLine) : CommandSwitch → Except CommandLineError CommandLine
  | .verbose =>
    if line.verbose then .error .argumentConflict else .ok { line with verbose := true }
  | .help => .error .displayHelp
  | .version => .error .displayVersion

/-- A slot whose value has not been checked. -/
structure Unchecked where
  slot : ValueSlot
  /-- The value, if it has been read. -/
  value : Option String
deriving DecidableEq, Repr, Inhabited

/-- How far the arguments have been read. -/
structure Reader where
  /-- What they say so far. -/
  line : CommandLine
  /-- What has not been checked. -/
  unchecked : Option Unchecked
  /-- Whether the file has been named. -/
  fileNamed : Bool
  /-- Whether every further argument is the file. -/
  onlyFiles : Bool
deriving DecidableEq, Repr, Inhabited

namespace Reader

/-- No argument has been read. -/
def start : Reader := ⟨.empty, none, false, false⟩

/-- Check what has not been checked. -/
def settle (reader : Reader) : Except CommandLineError Reader :=
  match reader.unchecked with
  | none => .ok reader
  | some ⟨_, none⟩ => .error .invalidValue
  | some ⟨slot, some value⟩ =>
    (reader.line.fill value slot).map fun line => { reader with line, unchecked := none }

/-- The slot that the next argument may fill. -/
def openSlot? (reader : Reader) : Option ValueSlot :=
  match reader.unchecked with
  | some ⟨slot, none⟩ => some slot
  | _ => none

/-- Take an argument as the value of a slot. -/
def giveValue (reader : Reader) (slot : ValueSlot) (value : String) : Reader :=
  { reader with unchecked := some ⟨slot, some value⟩ }

/-- Take an argument as the file. -/
def nameFile (reader : Reader) (argument : String) : Except CommandLineError Reader :=
  if reader.fileNamed then .error .unknownArgument
  else reader.settle.map fun reader =>
    { reader.giveValue .file argument with fileNamed := true }

/-- Obey a switch. -/
def turnOn (reader : Reader) (switch : CommandSwitch) : Except CommandLineError Reader :=
  match reader.settle with
  | .error error => .error error
  | .ok reader => (reader.line.turnOn switch).map fun line => { reader with line }

/-- Obey switches by their letters. -/
def turnOnAll (reader : Reader) : List Char → Except CommandLineError Reader
  | [] => .ok reader
  | letter :: rest =>
    match List.lookup letter CommandSwitch.short with
    | none => .error .unknownArgument
    | some switch =>
      match reader.turnOn switch with
      | .error error => .error error
      | .ok reader => reader.turnOnAll rest

/-- The name of an option and the value behind an equals sign. -/
def splitOption : List Char → List Char × Option (List Char)
  | [] => ([], none)
  | '=' :: value => ([], some value)
  | char :: rest =>
    let (name, value) := splitOption rest
    (char :: name, value)

/-- Take an option by its long name. -/
def takeOption (reader : Reader) (text : List Char) : Except CommandLineError Reader :=
  let (name, value) := splitOption text
  match List.lookup (String.ofList name) ValueSlot.options,
      List.lookup (String.ofList name) CommandSwitch.long, value with
  | some slot, _, some value =>
    match reader.settle with
    | .error error => .error error
    | .ok reader =>
      (reader.line.fill (String.ofList value) slot).map fun line => { reader with line }
  | some slot, _, none =>
    reader.settle.map fun reader => { reader with unchecked := some ⟨slot, none⟩ }
  | none, some _, some _ => .error .tooManyValues
  | none, some switch, none => reader.turnOn switch
  | none, none, _ => .error .unknownArgument

/-- Take an argument that is neither an option nor a switch. -/
def takePlain (reader : Reader) (argument : String) : Except CommandLineError Reader :=
  match reader.openSlot? with
  | some slot => .ok (reader.giveValue slot argument)
  | none => reader.nameFile argument

/-- Take an argument. The arguments of a server may look like anything. -/
def take (reader : Reader) (argument : String) : Except CommandLineError Reader :=
  if reader.onlyFiles then reader.nameFile argument
  else if reader.openSlot? = some .serverArg then .ok (reader.giveValue .serverArg argument)
  else match argument.toList with
    | ['-', '-'] => .ok { reader with onlyFiles := true }
    | '-' :: '-' :: text => reader.takeOption text
    | '-' :: letter :: letters => reader.turnOnAll (letter :: letters)
    | _ => reader.takePlain argument

/-- Take arguments one after the other. -/
def takeAll (reader : Reader) : List String → Except CommandLineError Reader
  | [] => .ok reader
  | argument :: rest =>
    match reader.take argument with
    | .error error => .error error
    | .ok reader => reader.takeAll rest

end Reader

/-- Read the arguments behind the name of the program. -/
def read (arguments : List String) : Except CommandLineError CommandLine :=
  match Reader.start.takeAll arguments with
  | .error error => .error error
  | .ok reader => reader.settle.map Reader.line

end CommandLine

end FoldAtlas
