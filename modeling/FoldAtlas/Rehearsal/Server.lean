import FoldAtlas.Rehearsal.Basic

/-!
# Pretended servers

A pretended server answers the requests of a client by method from a list of
replies, and keeps a record of what it hears. Before it answers it may send
frames of its own; instead of answering it may quit or send bytes that are no
frame. It quits when it is told to.
-/

namespace FoldAtlas

/-- How a pretended server answers a request. -/
inductive PretendedAnswer where
  /-- With a result. -/
  | result (value : Json)
  /-- With an error. -/
  | error (value : Json)
  /-- Not at all: it quits. -/
  | quit
  /-- With bytes that are no frame. -/
  | raw (bytes : Bytes)
deriving Repr, Inhabited

/-- What a pretended server does upon a request. -/
structure PretendedReply where
  /-- The payloads of the frames that it sends first. -/
  before : List Bytes
  /-- How it answers. -/
  answer : PretendedAnswer
deriving Repr, Inhabited

/-- What a pretended server notes. -/
inductive ServerRecord where
  /-- It was started under a name with arguments. -/
  | started (name : String) (args : List String)
  /-- It heard a request or notification. -/
  | heard (method : String)
  /-- It was told of a document. -/
  | opened (method : String) (params : Json)
  /-- Its request was answered. -/
  | answered (message : Json)
deriving Repr, Inhabited

/-- A pretended server. -/
structure PretendedServer where
  /-- What it does upon requests, by method. -/
  replies : List (String × PretendedReply)
  /-- Whether it has not quit. -/
  isRunning : Bool
  /-- What it has noted, in order. -/
  records : List ServerRecord
deriving Repr, Inhabited

namespace PretendedServer

/-- A server that was started under a name with arguments. -/
def start (replies : List (String × PretendedReply)) (name : String) (args : List String) :
    PretendedServer :=
  ⟨replies, true, [.started name args]⟩

/-- The answer to a method that has no reply of its own: a greeting that offers
symbols and regions, `null` to the request to end, and an empty list else. -/
def standardAnswer (method : String) : Json :=
  if method = Greeting.openingMethod then
    .object [("capabilities", .object [
      (ServerCapabilities.symbolEntry, .bool true),
      (ServerCapabilities.foldingEntry, .bool true)])]
  else if method = Client.endingMethod then .null
  else .array []

/-- What the server does upon a request for a method. -/
def replyTo (server : PretendedServer) (method : String) : PretendedReply :=
  (List.lookup method server.replies).getD ⟨[], .result (standardAnswer method)⟩

/-- A response as a frame. -/
def responseFrame (id : RequestId) (member : String) (value : Json) : Bytes :=
  Frame.encode (Bytes.ofText (Json.object [
    ("jsonrpc", .string envelopeVersion), ("id", RequestId.codec.encode id),
    (member, value)]).compact)

/-- Note something. -/
def note (server : PretendedServer) (record : ServerRecord) : PretendedServer :=
  { server with records := server.records ++ [record] }

/-- Hear a message. The second part of the answer is what the server sends. -/
def hear (server : PretendedServer) : Message → PretendedServer × Bytes
  | .request call =>
    let server := server.note (.heard call.method)
    let reply := server.replyTo call.method
    let before := reply.before.flatMap Frame.encode
    match reply.answer with
    | .result value => (server, before ++ responseFrame call.id "result" value)
    | .error value => (server, before ++ responseFrame call.id "error" value)
    | .raw bytes => (server, before ++ bytes)
    | .quit => ({ server with isRunning := false }, before)
  | .notification notice =>
    if notice.method = Client.leavingMethod then
      ({ server.note (.heard notice.method) with isRunning := false }, [])
    else if notice.method = Client.openingMethod then
      (server.note (.opened notice.method (notice.params.getD .null)), [])
    else (server.note (.heard notice.method), [])
  | .response answer => (server.note (.answered (Response.codec.encode answer)), [])

/-- Hear messages until the server quits. -/
def hearAll (server : PretendedServer) : List Message → PretendedServer × Bytes
  | [] => (server, [])
  | message :: rest =>
    if server.isRunning then
      let (server, bytes) := server.hear message
      let (server, more) := server.hearAll rest
      (server, bytes ++ more)
    else (server, [])

/-- How many frames the server may send of its own, at most. -/
def frameBound (server : PretendedServer) : Nat :=
  server.replies.foldr (fun entry total =>
    let unframed := match entry.2.answer with
      | .raw bytes => bytes.length
      | _ => 0
    entry.2.before.length + unframed + total) 0

end PretendedServer

/-- A rehearsal with a pretended server. -/
structure Performance where
  rehearsal : Rehearsal
  server : PretendedServer
  /-- How many messages of the client the server has had a chance to hear. -/
  passed : Nat

namespace Performance

/-- Let the server hear what the client has written. -/
def exchange (performance : Performance) : Performance :=
  let session := performance.rehearsal.client.session
  let (server, bytes) := performance.server.hearAll (session.sent.drop performance.passed)
  let received := session.receive bytes
  let session := if server.isRunning then received else received.endInbound
  { rehearsal :=
      { performance.rehearsal.withSession session with listening := server.isRunning }
    server := server
    passed := session.sent.length }

/-- Go on until every actor waits, then let the server hear what is new to it, or
else let time pass. Nothing is left to do when there is no news and nobody waits
for a point in time. -/
def advance (performance : Performance) : Option Performance :=
  let settled := performance.rehearsal.settle
  if performance.passed < settled.client.session.sent.length then
    some ({ performance with rehearsal := settled }.exchange)
  else match settled.nextDeadline? with
    | some deadline => some { performance with rehearsal := settled.moveTo deadline }
    | none => none

/-- At most so many rounds. -/
def advanceUpTo : (bound : Nat) → Performance → Performance
  | 0, performance => performance
  | bound + 1, performance =>
    match performance.advance with
    | none => { performance with rehearsal := performance.rehearsal.settle }
    | some next => advanceUpTo bound next

/-- More rounds than a visit takes: the client writes few messages of its own and
answers each request once, and each of its calls waits for one point in time. -/
def roundBound (performance : Performance) : Nat :=
  32 + 2 * performance.server.frameBound

/-- Play until there is nothing left to do. -/
def play (performance : Performance) : Performance :=
  performance.advanceUpTo performance.roundBound

/-- Begin a job and play it. -/
def playJob (performance : Performance) (job : Job) : Performance :=
  { performance with rehearsal := performance.rehearsal.begin job }.play

end Performance

end FoldAtlas
