import FoldAtlas.Greeting
import FoldAtlas.Session.Intake
import FoldAtlas.Symbol.Outline
import FoldAtlas.Folding

/-!
# Clients

A client runs one document session with a language server: it greets the
server, announces one document, asks about it and ends the session. A client is
a session together with a place in its lifecycle, the document once the server
knows it, and what it was given at its start.
-/

namespace FoldAtlas

/-- A document as the server knows it. -/
structure AnnouncedDocument where
  uri : String
  version : Int32
deriving DecidableEq, Repr, Inhabited

namespace AnnouncedDocument

/-- The members of a document's identity. -/
def fields := Fields.cons (.required "uri" .text) (.cons (.required "version" .signed32) .nil)

/-- Reading and writing a document's identity. -/
def codec : Codec AnnouncedDocument :=
  fields.codec "AnnouncedDocument" (fun (uri, version, ()) => ⟨uri, version⟩)
    (fun document => (document.uri, document.version, ()))

/-- The parameters that announce a document with its text. -/
def announcement (document : AnnouncedDocument) (languageId text : String) : Json :=
  .object [("textDocument", .object [
    ("languageId", .string languageId), ("text", .string text),
    ("uri", .string document.uri), ("version", .integer document.version.toInt)])]

/-- The parameters that ask about a document. -/
def reference (document : AnnouncedDocument) : Json :=
  .object [("textDocument", .object [("uri", .string document.uri)])]

/-- A document as it is announced: its version is 1. -/
def first (uri : String) : AnnouncedDocument := ⟨uri, 1⟩

end AnnouncedDocument

/-- What a client asks about its document. -/
inductive Query where
  /-- The regions that can be folded away. -/
  | folding
  | symbols
deriving DecidableEq, Repr, Inhabited

namespace Query

/-- The method of a query. -/
def method : Query → String
  | .folding => "textDocument/foldingRange"
  | .symbols => "textDocument/documentSymbol"

end Query

/-- What an operation of a client brings. -/
inductive OperationResult where
  /-- The server's side of the greeting. -/
  | greeting (greeting : Greeting)
  /-- The document that the server now knows. -/
  | document (document : AnnouncedDocument)
  /-- The regions of the document. -/
  | regions (regions : List FoldingRange)
  /-- The symbols of the document. -/
  | symbols (symbols : List OutlineEntry)
  /-- Nothing but its effect. -/
  | nothing
deriving Repr, Inhabited

namespace OperationResult

/-- Write a result. -/
def encode : OperationResult → Json
  | .greeting answer => Greeting.codec.encode answer
  | .document identity => AnnouncedDocument.codec.encode identity
  | .regions list => FoldingRange.listCodec.encode list
  | .symbols list => OutlineEntry.codec.list.encode list
  | .nothing => .null

end OperationResult

namespace Query

/-- Read the answer to a query. The answer `null` stands for an empty list. -/
def decode (query : Query) (value : Json) : Except Failure OperationResult :=
  let mismatch (error : DecodeError) : Failure :=
    .protocol ("invalid " ++ query.method ++ " result: " ++ error.message)
  match query with
  | .folding =>
    if value.isNull then .ok (.regions [])
    else match FoldingRange.listCodec.decode value with
      | .ok regions => .ok (.regions regions)
      | .error error => .error (mismatch error)
  | .symbols =>
    if value.isNull then .ok (.symbols [])
    else match Outline.codec.decode value with
      | .ok outline => .ok (.symbols outline.entries)
      | .error error => .error (mismatch error)

end Query

namespace Greeting

/-- The method that opens the greeting. -/
def openingMethod : String := "initialize"

/-- The method that closes the greeting. -/
def closingMethod : String := "initialized"

/-- Read the server's side of the greeting. The answer `null` tells nothing. -/
def decodeAnswer (value : Json) : Except Failure Greeting :=
  if value.isNull then .ok .silent
  else match codec.decode value with
    | .ok greeting => .ok greeting
    | .error error => .error (.protocol ("invalid initialize result: " ++ error.message))

end Greeting

/-- The server as a process of its own. -/
inductive ServerProcess where
  /-- There is none: the client was connected to streams. -/
  | none
  /-- It was started and is to be waited for. -/
  | held
  /-- It has been waited for. -/
  | released
deriving DecidableEq, Repr, Inhabited

/-- A client. -/
structure Client where
  session : Session
  /-- Its place in the lifecycle. -/
  state : Lifecycle
  /-- The document that the server knows. -/
  document : Option AnnouncedDocument
  /-- The server as a process. -/
  process : ServerProcess
  /-- How long its calls may take. -/
  limits : Limits
  /-- The URI of the directory of the work. -/
  rootUri : String
  /-- The number of its own process. -/
  processId : Nat
deriving Inhabited

namespace Client

/-- A client at its start. -/
def start (limits : Limits) (rootUri : String) (processId : Nat) (process : ServerProcess) :
    Client where
  session := .start .standard
  state := .uninitialized
  document := none
  process := process
  limits := limits
  rootUri := rootUri
  processId := processId

/-- The parameters of the greeting. -/
def greetingParams (client : Client) : Json :=
  Greeting.clientParams client.processId client.rootUri

end Client

end FoldAtlas
